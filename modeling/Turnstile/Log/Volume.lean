import Turnstile.Text.Blank

/-!
# Log files

A log file of bounded size and the files it leaves behind. A line that would take the file to its
bound goes to a fresh file; the full one becomes the latest of a limited number of older files.
Without older files nothing is ever left behind and the one file grows.
-/

namespace Turnstile.Log

/-- How a log file is bounded. A size bound that is not positive bounds nothing. -/
structure Retention where
  /-- The size in bytes that a file does not reach. -/
  bound : Int
  /-- How many older files are kept. -/
  backups : Int
deriving DecidableEq, Repr, Inhabited

/-- A log file and the older files, the latest first. -/
structure Volume where
  current : String := ""
  older : List String := []
deriving DecidableEq, Repr, Inhabited

namespace Volume

/-- A line would take the file to its bound. What is written counts in bytes, the line in
characters. -/
def isFull (retention : Retention) (volume : Volume) (line : String) : Bool :=
  decide (0 < retention.bound) &&
    decide (retention.bound ≤ volume.current.utf8ByteSize + line.length)

/-- Start a fresh file, if older files are kept. -/
def turn (retention : Retention) (volume : Volume) : Volume :=
  if 0 < retention.backups then
    ⟨"", (volume.current :: volume.older).take retention.backups.toNat⟩
  else volume

/-- Write a line, which ends in a line feed. -/
def write (retention : Option Retention) (volume : Volume) (text : String) : Volume :=
  let line := text ++ "\n"
  let opened := match retention with
    | some retention => if volume.isFull retention line then volume.turn retention else volume
    | none => volume
  { opened with current := opened.current ++ line }

/-- No more older files are kept than are asked for. -/
theorem length_older_turn_le (retention : Retention) (volume : Volume)
    (h : volume.older.length ≤ retention.backups.toNat) :
    (volume.turn retention).older.length ≤ retention.backups.toNat := by
  unfold turn
  split
  · exact List.length_take_le _ _
  · exact h

/-- The files under their names: the file at its path, the older ones numbered from one. -/
def listing (path : String) (volume : Volume) : List (String × String) :=
  (path, volume.current) ::
    volume.older.zipIdx.map fun entry => (path ++ "." ++ toString (entry.2 + 1), entry.1)

end Volume

/-- Follow one part of a path: a dot stays, two dots go up, a name goes down. -/
def followPart (reached : List String) (part : String) : List String :=
  if part = "" ∨ part = "." then reached
  else if part = ".." then reached.dropLast
  else reached ++ [part]

/-- A path in its shortest form; empty for the directory itself. -/
def shortPath (path : String) : String :=
  "/".intercalate ((Text.splitOnChar '/' path).foldl followPart [])

end Turnstile.Log
