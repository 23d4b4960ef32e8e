import Turnstile.Text.Blank
import Turnstile.Text.Percent

/-!
# Numeric addresses

Which texts are numeric addresses of the newer kind: eight groups of hexadecimal digits between
colons, of which one run may be left out, and of which the last two may be an address of the older
kind. A zone may follow after a percent sign.
-/

namespace Turnstile.Net

/-- A decimal number of an address of the older kind: at most 255, without a spare zero. -/
def isOctet (text : List Char) : Bool :=
  !text.isEmpty && text.length ≤ 3 && text.all Char.isDigit &&
    (text.length = 1 || text.head? != some '0') &&
    text.foldl (fun acc c => acc * 10 + (c.toNat - '0'.toNat)) 0 ≤ 255

/-- An address of the older kind. -/
def isOlderAddress (text : List Char) : Bool :=
  let parts := Text.splitAt '.' text
  parts.length = 4 && parts.all isOctet

/-- A group of hexadecimal digits. -/
def isGroup (text : List Char) : Bool :=
  !text.isEmpty && text.length ≤ 4 && text.all fun c => (Text.hexValue? c).isSome

/-- The groups with an address of the older kind at the end counted as two groups; `none` when
what stands there is no such address. -/
def unifyGroups (parts : List (List Char)) : Option (List (List Char)) :=
  match parts.getLast? with
  | some final =>
    if final.contains '.' then
      if isOlderAddress final then some (parts.dropLast ++ [['0'], ['0']]) else none
    else some parts
  | none => none

/-- The texts between the colons form an address. An empty one inside marks the run left out, and
then one at an end may be empty only beside the mark. -/
def areGroups (parts : List (List Char)) : Bool :=
  let inner := (parts.drop 1).dropLast
  match inner.filter List.isEmpty with
  | [] => parts.length = 8 && parts.all isGroup
  | [_] =>
    let before := parts.head? :: (inner.takeWhile (!·.isEmpty)).map some
    let after := ((inner.dropWhile (!·.isEmpty)).drop 1).map some ++ [parts.getLast?]
    let front := if before = [some []] then [] else before
    let back := if after = [some []] then [] else after
    front.length + back.length < 8 && (front ++ back).all fun part => (part.map isGroup).getD false
  | _ => false

/-- An address of the newer kind, perhaps with a zone. -/
def isNewerAddress (text : List Char) : Bool :=
  let parts := text.span (· != '%')
  let zoned := match parts.2 with
    | [] => true
    | _ :: zone => !zone.isEmpty && !zone.contains '%'
  let groups := Text.splitAt ':' parts.1
  zoned && 3 ≤ groups.length &&
    match unifyGroups groups with
    | some groups => groups.length ≤ 9 && areGroups groups
    | none => false

end Turnstile.Net
