import Turnstile.Text.CaseTable

/-!
# Case mapping

Full small and capital forms of a text. Each character maps on its own, with one exception: a
capital sigma becomes the final small sigma when, marks and signs aside, a cased letter stands
before it and none stands after it.
-/

namespace Turnstile.Text

/-- Look a code point up in the runs; a code point on no run stays. -/
def shiftByRuns (runs : List CaseRun) (code : Nat) : Nat :=
  match runs.find? (·.covers code) with
  | some run => ((code : Int) + run.shift).toNat
  | none => code

/-- Look a code point up in the expansions, then in the runs. -/
def expandCode (expansions : List (Nat × List Nat)) (runs : List CaseRun) (code : Nat) :
    List Nat :=
  match expansions.lookup code with
  | some codes => codes
  | none => [shiftByRuns runs code]

/-- The small form of one character on its own. -/
def smallChar (c : Char) : List Char :=
  if c.toNat < 0x80 then [c.toLower]
  else (expandCode smallExpansions smallRuns c.toNat).map Char.ofNat

/-- The capital form of one character. -/
def capitalChar (c : Char) : List Char :=
  if c.toNat < 0x80 then [c.toUpper]
  else (expandCode capitalExpansions capitalRuns c.toNat).map Char.ofNat

/-- Some closed range of the table holds the character. -/
def inRanges (ranges : List (Nat × Nat)) (c : Char) : Bool :=
  ranges.any fun range => range.1 ≤ c.toNat && c.toNat ≤ range.2

/-- The nearest character that is not ignorable is a cased letter. -/
def meetsCased (neighbours : List Char) : Bool :=
  match neighbours.dropWhile (inRanges caseIgnorableRanges) with
  | [] => false
  | c :: _ => inRanges casedRanges c

/-- Small forms from left to right; `before` holds the characters already passed, last first. -/
def lowerFrom (before : List Char) : List Char → List Char
  | [] => []
  | c :: rest =>
    let small :=
      if c = 'Σ' then
        if meetsCased before && !meetsCased rest then ['ς'] else ['σ']
      else smallChar c
    small ++ lowerFrom (c :: before) rest

/-- The small form of a list of characters. -/
def lowerChars (text : List Char) : List Char := lowerFrom [] text

/-- The small form of a text. -/
def lower (text : String) : String := String.ofList (lowerChars text.toList)

/-- The capital form of a text. -/
def upper (text : String) : String := String.ofList (text.toList.flatMap capitalChar)

/-- The characters of a small text. -/
@[simp] theorem toList_lower (text : String) : (lower text).toList = lowerChars text.toList := by
  simp [lower]

end Turnstile.Text
