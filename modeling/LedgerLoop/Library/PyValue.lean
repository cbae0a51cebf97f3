import Mathlib.Tactic

/-!
# Values that come of a JSON document

What Python's `json.loads` returns: `None`, booleans, integers, floats, strings, lists and dictionaries. A
string is a list of code points, because a JSON document can contain lone surrogates; `toString?` is the
text of one that has none. Dictionaries are in insertion order, with distinct keys.
-/

set_option autoImplicit false

namespace LedgerLoop.Library

/-- `str`, as its code points. -/
abbrev PyStr := List ℕ

namespace PyStr

def ofString (s : String) : PyStr := s.toList.map Char.toNat

/-- The text of a string without surrogates. -/
def toString? (s : PyStr) : Option String :=
  if s.all fun n => n < 0xD800 || (0xDFFF < n && n < 0x110000) then
    some (String.ofList (s.map Char.ofNat))
  else none

/-- `'.'.join(parts)`. -/
def join (sep : PyStr) : List PyStr → PyStr
  | [] => []
  | [part] => part
  | part :: parts => part ++ sep ++ join sep parts

lemma ofString_injective : Function.Injective ofString := by
  intro a b same
  have inj : Function.Injective Char.toNat := fun c d eq => Char.ext (UInt32.toNat_inj.1 eq)
  exact String.toList_inj.1 (List.map_injective_iff.2 inj same)

lemma ofString_append (a b : String) : ofString (a ++ b) = ofString a ++ ofString b := by
  simp [ofString]

/-- The text of a string has its code points. -/
lemma ofString_of_toString? {s : PyStr} {text : String} (h : s.toString? = some text) :
    ofString text = s := by
  unfold toString? at h
  split_ifs at h with scalar
  cases h
  rw [ofString, String.toList_ofList, List.map_map]
  rw [List.all_eq_true] at scalar
  conv_rhs => rw [← List.map_id s]
  refine List.map_congr_left fun n mem => ?_
  have valid : n.isValidChar := by
    have := scalar n mem
    simp only [Bool.or_eq_true, Bool.and_eq_true, decide_eq_true_eq] at this
    rcases this with low | ⟨high, top⟩
    · exact .inl low
    · exact .inr ⟨high, top⟩
  exact congrArg Char.toNat (dif_pos valid : Char.ofNat n = Char.ofNatAux n valid)

/-- A string without surrogates has its text. -/
@[simp] lemma toString?_ofString (s : String) : (ofString s).toString? = some s := by
  have scalar : (ofString s).all (fun n => n < 0xD800 || (0xDFFF < n && n < 0x110000)) = true := by
    rw [ofString, List.all_eq_true]
    intro n mem
    obtain ⟨c, _, rfl⟩ := List.mem_map.1 mem
    simp only [Bool.or_eq_true, Bool.and_eq_true, decide_eq_true_eq]
    exact c.valid
  have back : Char.ofNat ∘ Char.toNat = id := funext Char.ofNat_toNat
  rw [toString?, if_pos scalar, ofString, List.map_map, back, List.map_id, String.ofList_toList]

end PyStr

/-- `float`: a finite value, the negative zero, an infinity or NaN. -/
inductive PyFloat where
  | finite (value : ℚ)
  | negZero
  | inf (negative : Bool)
  | nan
deriving DecidableEq, Repr

/-- A value of a JSON document. -/
inductive Json where
  | null
  | bool (b : Bool)
  | int (n : ℤ)
  | float (x : PyFloat)
  | str (s : PyStr)
  | list (items : List Json)
  | dict (entries : List (PyStr × Json))

namespace Json

/-- `bool(v)`. -/
def truthy : Json → Bool
  | .null => false
  | .bool b => b
  | .int n => n != 0
  | .float (.finite x) => x != 0
  | .float .negZero => false
  | .float _ => true
  | .str s => !s.isEmpty
  | .list items => !items.isEmpty
  | .dict entries => !entries.isEmpty

/-- `d.get(key)` of a dictionary, `none` where the key is absent. -/
def get? (entries : List (PyStr × Json)) (key : String) : Option Json :=
  entries.lookup (PyStr.ofString key)

/-- The entries of a dictionary display whose keys are literals. -/
def entries (fields : List (String × Json)) : List (PyStr × Json) :=
  fields.map fun field => (PyStr.ofString field.1, field.2)

@[simp] lemma get?_entries (fields : List (String × Json)) (key : String) :
    get? (entries fields) key = fields.lookup key := by
  induction fields with
  | nil => rfl
  | cons field fields ih =>
    have same : (PyStr.ofString key == PyStr.ofString field.1) = (key == field.1) := by
      rw [Bool.eq_iff_iff, beq_iff_eq, beq_iff_eq]
      exact PyStr.ofString_injective.eq_iff
    change List.lookup _ _ = _ at ih
    change List.lookup _ (_ :: _) = _
    rw [List.lookup_cons, List.lookup_cons, same]
    cases key == field.1 with
    | true => rfl
    | false => exact ih

/-- The value at a path of nested dictionaries. -/
def path? : List String → Json → Option Json
  | [], v => some v
  | key :: path, .dict entries => (get? entries key).bind (path? path)
  | _ :: _, _ => none

lemma path?_append (path rest : List String) (v : Json) :
    path? (path ++ rest) v = (path? path v).bind (path? rest) := by
  induction path generalizing v with
  | nil => rfl
  | cons key path ih =>
    cases v with
    | dict entries =>
      simp only [List.cons_append, path?]
      cases get? entries key with
      | none => rfl
      | some w => exact ih w
    | _ => rfl

end Json

end LedgerLoop.Library
