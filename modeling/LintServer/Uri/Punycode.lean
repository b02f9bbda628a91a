/-!
# Punycode

A label with characters beyond ASCII is written in ASCII: first its ASCII characters, then, behind a
hyphen, where the others are inserted. The insertions are ordered by character and place, and each is
written as the number of the possible insertions that are skipped before it, in digits whose weights
adapt to the size of the numbers seen so far.
-/

namespace LintServer.Uri.Punycode

/-- The digit of a value: the letters, then the decimal digits. -/
def digit (n : Nat) : Char := if n < 26 then Char.ofNat (0x61 + n) else Char.ofNat (0x30 + (n - 26))

/-- The value of a digit. -/
def value? (c : Char) : Option Nat :=
  if c.isLower then some (c.toNat - 0x61)
  else if c.isUpper then some (c.toNat - 0x41)
  else if c.isDigit then some (c.toNat - 0x30 + 26)
  else none

/-- The least value of a digit at place `k`, which counts in steps of 36, that does not end a number. -/
def threshold (k bias : Nat) : Nat := if k ≤ bias then 1 else if bias + 26 ≤ k then 26 else k - bias

theorem one_le_threshold (k bias : Nat) : 1 ≤ threshold k bias := by
  unfold threshold
  split
  · omega
  · split <;> omega

/-- How often a number can be divided by 35 until it is at most 455, in steps of 36, and what is left. -/
def scale (delta k : Nat) : Nat × Nat := if 455 < delta then scale (delta / 35) (k + 36) else (delta, k)
termination_by delta
decreasing_by exact Nat.div_lt_self (by omega) (by omega)

/-- The bias after a number, of which `points` were written, the first one included. -/
def adapt (delta points : Nat) (first : Bool) : Nat :=
  let delta := if first then delta / 700 else delta / 2
  let (delta, k) := scale (delta + delta / points) 0
  k + 36 * delta / (delta + 38)

/-- The digits of a number from place `k` on. -/
def digitsFrom (bias k q : Nat) : List Char :=
  if q < threshold k bias then [digit q]
  else
    digit (threshold k bias + (q - threshold k bias) % (36 - threshold k bias)) ::
      digitsFrom bias (k + 36) ((q - threshold k bias) / (36 - threshold k bias))
termination_by q
decreasing_by
  have low := one_le_threshold k bias
  exact Nat.lt_of_le_of_lt (Nat.div_le_self _ _) (by omega)

/-- What is known while insertions are written: the number that is due, the bias, how many characters
are in place, and what is written so far. -/
structure Writing where
  delta : Nat
  bias : Nat
  placed : Nat
  written : List Char

/-- Passes a character of the label while the character with code `m` is inserted. -/
def Writing.pass (basic m : Nat) (w : Writing) (c : Char) : Writing :=
  if c.toNat < m then { w with delta := w.delta + 1 }
  else if c.toNat = m then
    ⟨0, adapt w.delta (w.placed + 1) (w.placed == basic), w.placed + 1,
      w.written ++ digitsFrom w.bias 36 w.delta⟩
  else w

/-- Writes the insertions of the characters with the given codes, which ascend from `n` on. -/
def writeAll (label : List Char) (basic : Nat) : (codes : List Nat) → (n : Nat) → Writing → List Char
  | [], _, w => w.written
  | m :: rest, n, w =>
    let w := { w with delta := w.delta + (m - n) * (w.placed + 1) }
    let w := label.foldl (Writing.pass basic m) w
    writeAll label basic rest (m + 1) { w with delta := w.delta + 1 }

/-- The label in ASCII, without the mark that it is written so. -/
def encode (label : List Char) : List Char :=
  let basic := label.filter (·.toNat < 0x80)
  let codes := (((label.filter (0x80 ≤ ·.toNat)).map Char.toNat).mergeSort (· ≤ ·)).eraseDups
  let start := if basic.isEmpty then [] else basic ++ ['-']
  start ++ writeAll label basic.length codes 0x80 ⟨0, 72, basic.length, []⟩

/-! ## Decoding -/

/-- Reads a number from place `k` on, added to `i` with weight `w`. -/
def readNumber (bias : Nat) : (k i w : Nat) → List Char → Option (Nat × List Char)
  | _, _, _, [] => none
  | k, i, w, c :: rest =>
    match value? c with
    | none => none
    | some d =>
      let i := i + d * w
      if 0x100000000 ≤ i then none
      else if d < threshold k bias then some (i, rest)
      else readNumber bias (k + 36) i (w * (36 - threshold k bias)) rest

/-- Carries out insertions; at most `fuel` of them. -/
def insertAll : (fuel : Nat) → (done : List Char) → (n i bias : Nat) → List Char → Option (List Char)
  | _, done, _, _, _, [] => some done
  | 0, _, _, _, _, _ :: _ => none
  | fuel + 1, done, n, i, bias, cs =>
    match readNumber bias 36 i 1 cs with
    | none => none
    | some (j, rest) =>
      let points := done.length + 1
      let code := n + j / points
      if 0x10FFFF < code || (0xD800 ≤ code && code ≤ 0xDFFF) then none
      else
        let place := j % points
        insertAll fuel (done.take place ++ Char.ofNat code :: done.drop place) code (place + 1)
          (adapt (j - i) points (i == 0)) rest

/-- The label that is written in ASCII. -/
def decode? (cs : List Char) : Option (List Char) :=
  if cs.all (·.toNat < 0x80) then
    match cs.reverse.dropWhile (· != '-') with
    | [] => insertAll cs.length [] 0x80 0 72 cs
    | _ :: basic =>
      let rest := (cs.reverse.takeWhile (· != '-')).reverse
      insertAll rest.length basic.reverse 0x80 0 72 rest
  else none

end LintServer.Uri.Punycode
