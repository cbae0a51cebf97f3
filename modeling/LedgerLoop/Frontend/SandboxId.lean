import LedgerLoop.Frontend.Session
import LedgerLoop.Library.PyUuid
import LedgerLoop.Services.Tenancy

/-!
# Sandbox session ids

What `demoSessionId` takes from storage is 36 hexadecimal digits and hyphens, and what
`demo_account_name` gives a name to has 32 hexadecimal digits. The two agree on the strings with four
hyphens (`sandbox_ids_agree`). Any other string that is taken is sent on every request and answered with
a 400 (`refused_of_hyphens`).
-/

set_option autoImplicit false

namespace LedgerLoop.Frontend
open Library Tenancy

/-- `demoSessionId` takes the string from storage, whatever it would mint instead. -/
def TakenFromStorage (stored : String) : Prop :=
  ∀ (s : Session) (minted : String), s.demoSession = none → s.demoStorage = some (some stored) →
    (s.demoSessionId minted).2 = stored

/-- The digits of an identifier, in lower case. -/
def uuidDigits (id : String) : List Char := (id.toList.filter (· != '-')).map Char.toLower

/-- Two spellings of one UUID: the same 32 digits, up to case and hyphens. -/
def SameUuid (id id' : String) : Prop := (uuidDigits id).length = 32 ∧ uuidDigits id = uuidDigits id'

section Specs
variable {id id' : String} {c : Char}

/-- The regular expression decides what is taken. -/
lemma takenFromStorage_iff : TakenFromStorage id ↔ isDemoSessionId id = true := by
  constructor
  · intro taken
    by_contra invalid
    have minted : ∀ minted : String, minted = id := fun minted => by
      have eq := taken { demoStorage := some (some id) } minted rfl rfl
      simpa [Session.demoSessionId, Option.filter, invalid] using eq
    exact absurd ((minted "").trans (minted "-").symm) (by decide)
  · intro valid s minted fresh stored
    simp [Session.demoSessionId, fresh, stored, Option.filter, valid]

/-- The characters of the regular expression. -/
lemma char_iff : (c == '-' || ('0' ≤ c && c ≤ '9') || ('a' ≤ c.toLower && c.toLower ≤ 'f')) = true ↔
    c = '-' ∨ (PyText.hexDigit c).isSome := by
  by_cases small : c.toNat < 128
  · exact PyText.of_ascii (P := fun c => (c == '-' || ('0' ≤ c && c ≤ '9') ||
      ('a' ≤ c.toLower && c.toLower ≤ 'f')) = true ↔ c = '-' ∨ (PyText.hexDigit c).isSome) (by decide +kernel) small
  -- neither side has a character that is not ASCII
  have above {c' : Char} (ascii : c'.toNat < 128) : ¬c ≤ c' := fun le =>
    absurd (lt_of_le_of_lt (show c.toNat ≤ c'.toNat from le) ascii) small
  have caseless : c.toLower = c := by
    have last : ('Z').toNat < 128 := by decide
    exact dif_neg fun upper => above last upper.2
  constructor
  · intro accepted
    simp only [caseless, Bool.or_eq_true, Bool.and_eq_true, beq_iff_eq, decide_eq_true_eq] at accepted
    rcases accepted with (hyphen | digit) | letter
    · exact .inl hyphen
    · exact absurd digit.2 (above (by decide))
    · exact absurd letter.2 (above (by decide))
  · rintro (rfl | digit)
    · rfl
    · obtain ⟨d, digit⟩ := Option.isSome_iff_exists.1 digit
      exact absurd (PyText.toNat_of_hexDigit digit) small

/-- A string that is taken consists of hyphens and digits, 36 in all. -/
lemma isDemoSessionId_iff : isDemoSessionId id = true ↔
    id.toList.length = 36 ∧ ∀ c ∈ id.toList, c = '-' ∨ (PyText.hexDigit c).isSome := by
  simp only [isDemoSessionId, Bool.and_eq_true, beq_iff_eq, List.all_eq_true, char_iff, String.length_toList]

/-- The digits are what the hyphens leave. -/
lemma length_digits : (id.toList.filter (· != '-')).length + id.toList.count '-' = id.toList.length := by
  rw [List.length_eq_countP_add_countP (· == '-') (l := id.toList), ← List.countP_eq_length_filter, List.count,
    add_comm]
  congr 2
  funext c
  by_cases hyphen : c = '-' <;> simp [hyphen]

/-- The digits of a string that is taken. -/
lemma isHex_of_mem (taken : isDemoSessionId id = true) (mem : c ∈ id.toList.filter (· != '-')) :
    (PyText.hexDigit c).isSome := by
  obtain ⟨mem, digit⟩ := List.mem_filter.1 mem
  exact ((isDemoSessionId_iff.1 taken).2 c mem).resolve_left (by simpa using digit)

/-- A string that is taken has a name iff four of its characters are hyphens. -/
lemma demoAccountName_eq (taken : isDemoSessionId id = true) : demoAccountName id =
    if id.toList.count '-' = 4 then
      some ("demo:" ++ String.ofList (PyText.uuidStr (PyText.hexValue 0 (id.toList.filter (· != '-')))))
    else none := by
  obtain ⟨length, chars⟩ := isDemoSessionId_iff.1 taken
  have digits := @length_digits id
  rw [demoAccountName, PyText.uuid_eq chars]
  by_cases four : id.toList.count '-' = 4
  · rw [if_pos four, if_pos (by omega), Option.map_some]
  · rw [if_neg four, if_neg (by omega), Option.map_none]

/-- The name of a string that is taken has its digits. -/
lemma digits_of_demoAccountName {name : String} (taken : isDemoSessionId id = true)
    (named : demoAccountName id = some name) : ∃ text, name = "demo:" ++ String.ofList text ∧
      text.filter (· != '-') = uuidDigits id ∧ (uuidDigits id).length = 32 := by
  obtain ⟨length, chars⟩ := isDemoSessionId_iff.1 taken
  have some_digits := @length_digits id
  rw [demoAccountName_eq taken] at named
  split_ifs at named with four
  have digits : ∀ c ∈ id.toList.filter (· != '-'), (PyText.hexDigit c).isSome := fun c => isHex_of_mem taken
  have long : (id.toList.filter (· != '-')).length = 32 := by omega
  have written := PyText.leftpad_toDigits digits (fun nil => by rw [nil] at long; cases long)
  rw [long] at written
  refine ⟨_, (Option.some.inj named).symm, PyText.filter_uuidStr written ?_, by rw [uuidDigits, List.length_map, long]⟩
  rw [uuidDigits, List.mem_map]
  rintro ⟨c, mem, lower⟩
  obtain ⟨d, digit⟩ := Option.isSome_iff_exists.1 (digits c mem)
  have again := (PyText.of_hexDigit digit).2.2.1
  rw [lower] at again
  cases again

/-- Two strings that are taken have one name iff they spell one UUID. -/
lemma same_name_iff (taken : isDemoSessionId id = true) (taken' : isDemoSessionId id' = true) :
    (∃ name, demoAccountName id = some name ∧ demoAccountName id' = some name) ↔ SameUuid id id' := by
  constructor
  · rintro ⟨name, named, named'⟩
    obtain ⟨text, rfl, digits, long⟩ := digits_of_demoAccountName taken named
    obtain ⟨text', same, digits', _⟩ := digits_of_demoAccountName taken' named'
    have same := congrArg String.toList same
    simp only [String.toList_append, String.toList_ofList, List.append_cancel_left_eq] at same
    exact ⟨long, by rw [← digits, ← digits', same]⟩
  · rintro ⟨long, same⟩
    have value : PyText.hexValue 0 (id.toList.filter (· != '-')) =
        PyText.hexValue 0 (id'.toList.filter (· != '-')) := by
      rw [← PyText.hexValue_map_toLower fun c => isHex_of_mem taken,
        ← PyText.hexValue_map_toLower fun c => isHex_of_mem taken']
      exact congrArg (PyText.hexValue 0) same
    have long' := long
    rw [same] at long'
    rw [uuidDigits, List.length_map] at long long'
    have four : id.toList.count '-' = 4 := by
      have length := (isDemoSessionId_iff.1 taken).1
      have all := @length_digits id
      omega
    have four' : id'.toList.count '-' = 4 := by
      have length := (isDemoSessionId_iff.1 taken').1
      have all := @length_digits id'
      omega
    refine ⟨_, (demoAccountName_eq taken).trans (if_pos four), ?_⟩
    rw [demoAccountName_eq taken', if_pos four', value]

end Specs

/-- A tab without a key that has taken a string sends it and keeps it, and if the string has not four hyphens
the answer is a 400, whatever is stored. -/
theorem refused_of_hyphens {s : Session} {id minted : String} (keyless : s.key = none)
    (fresh : s.demoSession = none) (stored : s.demoStorage = some (some id)) (taken : TakenFromStorage id)
    (hyphens : id.toList.count '-' ≠ 4) :
    (s.tenantHeaders minted).2 = .xDemoSession id ∧ (s.tenantHeaders minted).1.key = none ∧
      (s.tenantHeaders minted).1.demoSession = some id ∧
      ∀ (hashKey : String → String) (store : Store) (refreshAfterS : ℤ) (draws : TenancyDraws),
        resolveTenant hashKey store refreshAfterS none (some id) draws =
          .error (.httpException 400 "X-Demo-Session must be a UUID") := by
  obtain ⟨id', sent, keyless', cached, _⟩ := @Session.tenantHeaders_of_none s minted keyless
  have kept : s.getApiKey.1.demoStorage = some (some id) := by
    rw [← stored, Session.getApiKey]
    split_ifs <;> rfl
  have same : id' = id := by
    have pair : s.getApiKey = (s.getApiKey.1, none) := Prod.ext rfl keyless
    rw [Session.tenantHeaders, pair] at sent
    have header := taken s.getApiKey.1 minted (Session.demoSession_getApiKey.trans fresh) kept
    exact (TenantHeaders.xDemoSession.inj sent).symm.trans header
  subst same
  refine ⟨sent, keyless', cached, fun hashKey store refreshAfterS draws => ?_⟩
  have nameless : demoAccountName id' = none :=
    (demoAccountName_eq (takenFromStorage_iff.1 taken)).trans (if_neg hyphens)
  simp only [resolveTenant, identify, nameless]
  rfl

/-- Strings in storage that `demoSessionId` takes: those with four hyphens are the ones that have an account
name, and they have the same name exactly if they spell the same UUID. -/
theorem sandbox_ids_agree {id : String} (taken : TakenFromStorage id) :
    ((∃ name, demoAccountName id = some name) ∧ ∀ id', TakenFromStorage id' →
      ((∃ name, demoAccountName id = some name ∧ demoAccountName id' = some name) ↔ SameUuid id id')) ↔
        id.toList.count '-' = 4 := by
  have valid := takenFromStorage_iff.1 taken
  constructor
  · rintro ⟨⟨name, named⟩, _⟩
    rw [demoAccountName_eq valid] at named
    split_ifs at named with four
    exact four
  · intro four
    exact ⟨⟨_, (demoAccountName_eq valid).trans (if_pos four)⟩, fun id' taken' =>
      same_name_iff valid (takenFromStorage_iff.1 taken')⟩

/-- A UUID in two spellings: other letters are capitals, and the hyphens stand elsewhere. -/
theorem sandbox_ids_agree_sample :
    ((∃ name, demoAccountName "3f2504e0-4f89-41d3-9a0c-0305e82c3301" = some name) ∧
      ∀ id', TakenFromStorage id' →
        ((∃ name, demoAccountName "3f2504e0-4f89-41d3-9a0c-0305e82c3301" = some name ∧
            demoAccountName id' = some name) ↔
          SameUuid "3f2504e0-4f89-41d3-9a0c-0305e82c3301" id')) ∧
    demoAccountName "3F2504E04F89-41D3--9A0C0305E82C3301-" =
      some "demo:3f2504e0-4f89-41d3-9a0c-0305e82c3301" :=
  ⟨(sandbox_ids_agree (takenFromStorage_iff.2 (by decide +kernel))).2 (by decide +kernel), by decide +kernel⟩

/-- Thirty-six hyphens are taken from storage. -/
theorem hyphens_have_no_name :
    ¬∀ id, TakenFromStorage id → ∃ name, demoAccountName id = some name := by
  intro named
  obtain ⟨name, eq⟩ := named (String.ofList (List.replicate 36 '-')) (takenFromStorage_iff.2 (by decide +kernel))
  have none_ : demoAccountName (String.ofList (List.replicate 36 '-')) = none := by decide +kernel
  rw [none_] at eq
  cases eq

end LedgerLoop.Frontend
