import Mathlib.Data.List.Infix

/-!
# Python string operations

The scripts test substrings with `in`, compare prefixes and suffixes, keep the
first line of a program's output and split search paths on a separator. Each
is written on the list of characters, so that it computes by `decide`.
-/

namespace DrogonBuild

/-- `key in s` on strings: `key` occurs in `s` as a substring. -/
def inStr (key s : String) : Bool := decide (key.toList <:+: s.toList)

example : inStr "/usr/lib" "/usr/lib/x86_64-linux-gnu" = true := by decide

/-- `s.startswith(pre)`. -/
def startswith (s pre : String) : Bool := pre.toList.isPrefixOf s.toList

/-- `s.endswith(suf)`. -/
def endswith (s suf : String) : Bool := suf.toList.isSuffixOf s.toList

/-- `out.split("\n")[0]`: the text before the first newline. -/
def firstLine (out : String) : String := String.mk (out.toList.takeWhile (· ≠ '\n'))

/-- `s.split(sep)` on the characters of `s`: every separator ends a piece, and
empty pieces are kept. -/
def splitChars (sep : Char) : List Char → List (List Char)
  | [] => [[]]
  | c :: cs =>
    if c = sep then [] :: splitChars sep cs
    else match splitChars sep cs with
      | w :: ws => (c :: w) :: ws
      | [] => [[c]]

/-- `s.split(sep)`. -/
def pySplit (s : String) (sep : Char) : List String := (splitChars sep s.toList).map String.mk

/-- `c.isspace()`: the characters `str.strip()` removes. -/
def pyIsSpace (c : Char) : Bool :=
  let n := c.toNat
  (9 ≤ n && n ≤ 13) || (28 ≤ n && n ≤ 32) || n = 0x85 || n = 0xA0 || n = 0x1680 ||
    (0x2000 ≤ n && n ≤ 0x200A) || n = 0x2028 || n = 0x2029 || n = 0x202F || n = 0x205F || n = 0x3000

/-- `not s.strip()`: `s` is empty or holds only whitespace. -/
def isBlank (s : String) : Bool := s.toList.all pyIsSpace

/-- A piece without the separator, followed by the separator, splits off as one piece. -/
theorem splitChars_append_sep (sep : Char) {p : List Char} (hp : sep ∉ p) (cs : List Char) :
    splitChars sep (p ++ sep :: cs) = p :: splitChars sep cs := by
  induction p with
  | nil => simp [splitChars]
  | cons c p ih =>
    have hc : c ≠ sep := fun h => hp (h ▸ List.mem_cons_self _ _)
    simp [splitChars, hc, ih fun h => hp (List.mem_cons_of_mem _ h)]

theorem splitChars_of_not_mem (sep : Char) {cs : List Char} (h : sep ∉ cs) : splitChars sep cs = [cs] := by
  induction cs with
  | nil => rfl
  | cons c cs ih =>
    have hc : c ≠ sep := fun e => h (e ▸ List.mem_cons_self _ _)
    simp [splitChars, hc, ih fun e => h (List.mem_cons_of_mem _ e)]

/-- A text without the separator splits into itself. -/
theorem pySplit_of_not_mem (sep : Char) {s : String} (h : sep ∉ s.toList) : pySplit s sep = [s] := by
  rw [pySplit, splitChars_of_not_mem sep h]
  rfl

theorem pySplit_prepend (sep : Char) {p : String} (hp : sep ∉ p.toList) (s : String) :
    pySplit (p ++ String.singleton sep ++ s) sep = p :: pySplit s sep := by
  have e : (p ++ String.singleton sep ++ s).toList = p.toList ++ sep :: s.toList := by
    simp [String.toList, String.singleton, String.push]
  rw [pySplit, e, splitChars_append_sep sep hp]
  rfl

end DrogonBuild
