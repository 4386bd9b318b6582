import Mathlib.Algebra.Order.Ring.Cast
import Mathlib.Algebra.Order.Ring.Rat
import DrogonBuild.Python.Text

/-!
# Python values as the build scripts hold them

`json.load` builds these values from `build_history.json` and
`build_optimizations.json`, and the build manager keeps its configuration in one
of them. Every access the scripts make (`d[k]`, `d.get(k, default)`, `d[k] = v`,
`k in d`, `.append`, `.extend`, `str`, `+`, `<`) is a function here that fails
with the exception Python raises on a value of the wrong shape.
-/

namespace DrogonBuild

/-- The exceptions a build script can raise, with the key, attribute, operation
or program Python names in the message. -/
inductive PyError where
  | keyError (key : String)
  | typeError (message : String)
  | attributeError (type attr : String)
  | fileNotFound (program : String)
  | osError (program : String)
  deriving Repr, DecidableEq

/-- A JSON document as Python holds it after `json.load`. Floats carry their
exact decimal value. -/
inductive Json where
  | null
  | bool (b : Bool)
  | int (n : Int)
  | float (q : ℚ)
  | str (s : String)
  | list (xs : List Json)
  | dict (kvs : List (String × Json))
  deriving Repr, Inhabited

/-- Key lookup in a Python dict. -/
def lookup : List (String × Json) → String → Option Json
  | [], _ => none
  | (k, v) :: kvs, key => if k = key then some v else lookup kvs key

/-- `d[key] = v` on a dict: the key keeps its place, a new key goes last. -/
def setKey : List (String × Json) → String → Json → List (String × Json)
  | [], key, v => [(key, v)]
  | (k, w) :: kvs, key, v => if k = key then (k, v) :: kvs else (k, w) :: setKey kvs key v

@[simp] theorem lookup_nil (key : String) : lookup [] key = none := rfl

theorem lookup_cons (k key : String) (v : Json) (kvs : List (String × Json)) :
    lookup ((k, v) :: kvs) key = if k = key then some v else lookup kvs key := rfl

@[simp] theorem lookup_setKey_self (kvs : List (String × Json)) (key : String) (v : Json) :
    lookup (setKey kvs key v) key = some v := by
  induction kvs with
  | nil => simp [setKey, lookup_cons]
  | cons kw kvs ih =>
    obtain ⟨k, w⟩ := kw
    by_cases h : k = key <;> simp [setKey, lookup_cons, h, ih]

@[simp] theorem lookup_setKey_ne (kvs : List (String × Json)) {key key' : String} (v : Json)
    (h : key ≠ key') : lookup (setKey kvs key v) key' = lookup kvs key' := by
  induction kvs with
  | nil => simp [setKey, lookup_cons, h]
  | cons kw kvs ih =>
    obtain ⟨k, w⟩ := kw
    by_cases hk : k = key
    · subst hk; simp [setKey, lookup_cons, h]
    · simp [setKey, lookup_cons, hk, ih]

/-- Setting a key to the value it already holds changes nothing. -/
theorem setKey_of_lookup {kvs : List (String × Json)} {key : String} {v : Json}
    (h : lookup kvs key = some v) : setKey kvs key v = kvs := by
  induction kvs with
  | nil => cases h
  | cons kw kvs ih =>
    obtain ⟨k, w⟩ := kw
    by_cases hk : k = key
    · simp only [lookup_cons, hk, if_true, Option.some.injEq] at h
      simp [setKey, hk, h]
    · simp only [lookup_cons, hk, if_false] at h
      simp [setKey, hk, ih h]

/-- Setting a key twice keeps the second value, in the first one's place. -/
@[simp] theorem setKey_setKey_self (kvs : List (String × Json)) (key : String) (v v' : Json) :
    setKey (setKey kvs key v) key v' = setKey kvs key v' := by
  induction kvs with
  | nil => simp [setKey]
  | cons kw kvs ih =>
    obtain ⟨k, w⟩ := kw
    by_cases hk : k = key <;> simp [setKey, hk, ih]

theorem lookup_append (xs ys : List (String × Json)) (key : String) :
    lookup (xs ++ ys) key = (lookup xs key).or (lookup ys key) := by
  induction xs with
  | nil => rfl
  | cons kv xs ih =>
    obtain ⟨k, v⟩ := kv
    by_cases h : k = key <;> simp [lookup_cons, h, ih]

/-- A key the dict does not hold goes last. -/
theorem setKey_of_lookup_none {kvs : List (String × Json)} {key : String} (v : Json)
    (h : lookup kvs key = none) : setKey kvs key v = kvs ++ [(key, v)] := by
  induction kvs with
  | nil => rfl
  | cons kw kvs ih =>
    obtain ⟨k, w⟩ := kw
    have hk : k ≠ key := fun e => by simp [lookup_cons, e] at h
    rw [lookup_cons, if_neg hk] at h
    simp [setKey, hk, ih h]

/-- Assigning distinct new keys one after another appends them in order. -/
theorem foldl_setKey_fresh : ∀ (kvs acc : List (String × Json)), (kvs.map Prod.fst).Nodup →
    (∀ kv ∈ kvs, lookup acc kv.1 = none) → kvs.foldl (fun d kv => setKey d kv.1 kv.2) acc = acc ++ kvs
  | [], acc, _, _ => by simp
  | kv :: kvs, acc, hn, hf => by
    rw [List.map_cons, List.nodup_cons] at hn
    have fresh : ∀ kv' ∈ kvs, lookup (acc ++ [kv]) kv'.1 = none := fun kv' hkv' => by
      rw [lookup_append, hf kv' (List.mem_cons_of_mem _ hkv'), Option.none_or, lookup_cons,
        if_neg fun (e : kv.1 = kv'.1) => hn.1 (by rw [e]; exact List.mem_map_of_mem _ hkv'), lookup_nil]
    rw [List.foldl_cons, setKey_of_lookup_none _ (hf kv (List.mem_cons_self _ _)),
      foldl_setKey_fresh kvs _ hn.2 fresh, List.append_assoc, List.singleton_append]

/-- Setting two different keys commutes once the second is present: it keeps its place,
and the first goes where it would have gone. -/
theorem setKey_comm {kvs : List (String × Json)} {k k' : String} (hk : k ≠ k')
    (h : (lookup kvs k').isSome) (v v' : Json) :
    setKey (setKey kvs k v) k' v' = setKey (setKey kvs k' v') k v := by
  induction kvs with
  | nil => cases h
  | cons kw kvs ih =>
    obtain ⟨a, x⟩ := kw
    by_cases ha : a = k
    · subst ha
      simp [setKey, hk]
    · by_cases ha' : a = k'
      · subst ha'
        simp [setKey, ha]
      · simp only [lookup_cons, ha', if_false] at h
        simp [setKey, ha, ha', ih h]

namespace Json

/-- The name `type(v).__name__` gives, as it appears in Python's messages. -/
def typeName : Json → String
  | null => "NoneType"
  | bool _ => "bool"
  | int _ => "int"
  | float _ => "float"
  | str _ => "str"
  | list _ => "list"
  | dict _ => "dict"

/-- Python truthiness, as `if v:` and `bool(v)` read it. -/
def truthy : Json → Bool
  | null => false
  | bool b => b
  | int n => n != 0
  | float q => q != 0
  | str s => !s.isEmpty
  | list xs => !xs.isEmpty
  | dict kvs => !kvs.isEmpty

/-- `v == s` for a string `s`. -/
def eqStr : Json → String → Bool
  | str t, s => t == s
  | _, _ => false

/-- The value a dict holds under `key`; nothing for other values. -/
def field? : Json → String → Option Json
  | dict kvs, key => lookup kvs key
  | _, _ => none

/-- `d.get(key, default)`. -/
def get (d : Json) (key : String) (default : Json) : Except PyError Json :=
  match d with
  | dict kvs => .ok ((lookup kvs key).getD default)
  | v => .error (.attributeError v.typeName "get")

/-- `d[key]` with a string key. -/
def getItem (d : Json) (key : String) : Except PyError Json :=
  match d with
  | dict kvs => match lookup kvs key with
    | some v => .ok v
    | none => .error (.keyError key)
  | list _ => .error (.typeError "list indices must be integers or slices, not str")
  | str _ => .error (.typeError "string indices must be integers, not 'str'")
  | v => .error (.typeError s!"'{v.typeName}' object is not subscriptable")

/-- `d[key] = v`. -/
def setItem (d : Json) (key : String) (v : Json) : Except PyError Json :=
  match d with
  | dict kvs => .ok (dict (setKey kvs key v))
  | list _ => .error (.typeError "list indices must be integers or slices, not str")
  | w => .error (.typeError s!"'{w.typeName}' object does not support item assignment")

/-- `key in d`: key membership in a dict, element membership in a list,
substring in a string. -/
def contains (d : Json) (key : String) : Except PyError Bool :=
  match d with
  | dict kvs => .ok (lookup kvs key).isSome
  | list xs => .ok (xs.any (eqStr · key))
  | str s => .ok (inStr key s)
  | v => .error (.typeError s!"argument of type '{v.typeName}' is not iterable")

/-- `xs.append(v)`. -/
def append (d : Json) (v : Json) : Except PyError Json :=
  match d with
  | list xs => .ok (list (xs ++ [v]))
  | w => .error (.attributeError w.typeName "append")

/-- The items `xs.extend(v)` iterates over: list elements, the characters of a
string, the keys of a dict. -/
def iter : Json → Except PyError (List Json)
  | list xs => .ok xs
  | str s => .ok (s.toList.map fun c => str (String.singleton c))
  | dict kvs => .ok (kvs.map fun kv => str kv.1)
  | v => .error (.typeError s!"'{v.typeName}' object is not iterable")

/-- The integer a value stands for in arithmetic: `bool` and `int` are integers. -/
def int? : Json → Option Int
  | bool b => some (if b then 1 else 0)
  | int n => some n
  | _ => none

/-- The number a value stands for in arithmetic. -/
def num? : Json → Option ℚ
  | bool b => some (if b then 1 else 0)
  | int n => some n
  | float q => some q
  | _ => none

end Json

/-- The positional `repr` of a float with a terminating decimal expansion;
exponent notation (magnitudes from `1e16`, or below `1e-4`) is not modelled. -/
def floatRepr (q : ℚ) : String :=
  match (List.range 21).find? (fun k => Nat.pow 10 k % q.den == 0) with
  | none => toString q
  | some k =>
    let n := q.num * ((Nat.pow 10 k / q.den : Nat) : Int)
    let sign := if n < 0 then "-" else ""
    let whole := toString (n.natAbs / Nat.pow 10 k)
    let frac := toString (n.natAbs % Nat.pow 10 k)
    let frac := if k = 0 then "0" else "".pushn '0' (k - frac.length) ++ frac
    sign ++ whole ++ "." ++ frac

mutual
/-- `repr(v)`; strings are quoted with single quotes, escapes are not modelled. -/
def Json.repr : Json → String
  | .null => "None"
  | .bool b => if b then "True" else "False"
  | .int n => toString n
  | .float q => floatRepr q
  | .str s => "'" ++ s ++ "'"
  | .list xs => "[" ++ Json.reprItems xs ++ "]"
  | .dict kvs => "\x7b" ++ Json.reprPairs kvs ++ "\x7d"
/-- The comma-separated `repr` of list items. -/
def Json.reprItems : List Json → String
  | [] => ""
  | [x] => Json.repr x
  | x :: xs => Json.repr x ++ ", " ++ Json.reprItems xs
/-- The comma-separated `repr` of dict items. -/
def Json.reprPairs : List (String × Json) → String
  | [] => ""
  | [(k, v)] => "'" ++ k ++ "': " ++ Json.repr v
  | (k, v) :: kvs => "'" ++ k ++ "': " ++ Json.repr v ++ ", " ++ Json.reprPairs kvs
end

namespace Json

/-- `str(v)`, which f-strings use: a string is itself, anything else its `repr`. -/
def pyStr : Json → String
  | str s => s
  | v => v.repr

example : (list [int 3, str "x", dict [("k", null)]]).pyStr = "[3, 'x', \x7b'k': None\x7d]" := by decide

/-- `a + b` on numbers: integral when both operands are. -/
def add (a b : Json) : Except PyError Json :=
  match a.int?, b.int? with
  | some m, some n => .ok (int (m + n))
  | _, _ => match a.num?, b.num? with
    | some x, some y => .ok (float (x + y))
    | _, _ => .error (.typeError
        s!"unsupported operand type(s) for +: '{a.typeName}' and '{b.typeName}'")

/-- `a - b` on numbers. -/
def sub (a b : Json) : Except PyError Json :=
  match a.int?, b.int? with
  | some m, some n => .ok (int (m - n))
  | _, _ => match a.num?, b.num? with
    | some x, some y => .ok (float (x - y))
    | _, _ => .error (.typeError
        s!"unsupported operand type(s) for -: '{a.typeName}' and '{b.typeName}'")

/-- `a < b` on numbers; Python compares an `int` and a `float` exactly. -/
def lt (a b : Json) : Except PyError Bool :=
  match a.int?, b.int? with
  | some m, some n => .ok (decide (m < n))
  | _, _ => match a.num?, b.num? with
    | some x, some y => .ok (decide (x < y))
    | _, _ => .error (.typeError
        s!"'<' not supported between instances of '{a.typeName}' and '{b.typeName}'")

/-- `min(a, b)`: `b` only when it is strictly smaller, as Python keeps the first minimum. -/
def min (a b : Json) : Except PyError Json :=
  (lt b a).map fun less => if less then b else a

/-- `max(a, b)`: `b` only when it is strictly larger. -/
def max (a b : Json) : Except PyError Json :=
  (lt a b).map fun more => if more then b else a

@[simp] theorem field?_dict (kvs : List (String × Json)) (key : String) :
    (dict kvs).field? key = lookup kvs key := rfl

@[simp] theorem get_dict (kvs : List (String × Json)) (key : String) (d : Json) :
    (dict kvs).get key d = .ok ((lookup kvs key).getD d) := rfl

@[simp] theorem setItem_dict (kvs : List (String × Json)) (key : String) (v : Json) :
    (dict kvs).setItem key v = .ok (dict (setKey kvs key v)) := rfl

@[simp] theorem contains_dict (kvs : List (String × Json)) (key : String) :
    (dict kvs).contains key = .ok (lookup kvs key).isSome := rfl

@[simp] theorem append_list (xs : List Json) (v : Json) :
    (list xs).append v = .ok (list (xs ++ [v])) := rfl

@[simp] theorem getItem_dict_ok {kvs : List (String × Json)} {key : String} {v : Json} :
    (dict kvs).getItem key = .ok v ↔ lookup kvs key = some v := by
  simp only [getItem]
  split <;> simp_all

theorem getItem_of_field? {d v : Json} {key : String} (h : d.field? key = some v) : d.getItem key = .ok v := by
  cases d with
  | dict kvs => exact getItem_dict_ok.2 h
  | _ => cases h

theorem getItem_ok {d v : Json} {key : String} (h : d.getItem key = .ok v) : d.field? key = some v := by
  cases d with
  | dict kvs => exact getItem_dict_ok.1 h
  | _ => simp [getItem] at h

theorem setItem_ok {d v o : Json} {key : String} (h : d.setItem key v = .ok o) :
    ∃ kvs, d = dict kvs ∧ o = dict (setKey kvs key v) := by
  cases d <;> simp_all [setItem]

theorem get_ok {d dflt v : Json} {key : String} (h : d.get key dflt = .ok v) :
    ∃ kvs, d = dict kvs ∧ v = (lookup kvs key).getD dflt := by
  cases d <;> simp_all [get]

/-- On integers, `+`, `-`, `<`, `min` and `max` are the integer operations. -/
@[simp] theorem add_int (m n : Int) : (int m).add (int n) = .ok (int (m + n)) := rfl

@[simp] theorem sub_int (m n : Int) : (int m).sub (int n) = .ok (int (m - n)) := rfl

@[simp] theorem lt_int (m n : Int) : (int m).lt (int n) = .ok (decide (m < n)) := rfl

@[simp] theorem min_int (m n : Int) : (int m).min (int n) = .ok (int (Min.min m n)) := by
  by_cases h : n < m <;> simp [min, Except.map, h, Int.min_def] <;> omega

@[simp] theorem max_int (m n : Int) : (int m).max (int n) = .ok (int (Max.max m n)) := by
  by_cases h : m < n <;> simp [max, Except.map, h, Int.max_def] <;> omega

theorem num?_of_int? {a : Json} {m : Int} (h : a.int? = some m) : a.num? = some m := by
  cases a <;> simp only [int?, num?, reduceCtorEq, Option.some.injEq] at h ⊢ <;> subst h
  · cases ‹Bool› <;> rfl
  · rfl

/-- On numbers of any of Python's three numeric types, `+` adds their values. -/
theorem add_num {a b : Json} {x y : ℚ} (ha : a.num? = some x) (hb : b.num? = some y) :
    ∃ r, a.add b = .ok r ∧ r.num? = some (x + y) := by
  unfold add
  split
  · rename_i m n hm hn
    rw [num?_of_int? hm] at ha
    rw [num?_of_int? hn] at hb
    cases ha; cases hb
    exact ⟨_, rfl, by simp [num?]⟩
  · rw [ha, hb]
    exact ⟨_, rfl, rfl⟩

/-- Python compares numbers of any of its three numeric types by value. -/
theorem lt_num {a b : Json} {x y : ℚ} (ha : a.num? = some x) (hb : b.num? = some y) :
    a.lt b = .ok (decide (x < y)) := by
  unfold lt
  split
  · rename_i m n hm hn
    rw [num?_of_int? hm] at ha
    rw [num?_of_int? hn] at hb
    cases ha; cases hb
    simp only [Int.cast_lt]
  · rw [ha, hb]

end Json

end DrogonBuild
