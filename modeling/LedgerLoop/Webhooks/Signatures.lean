import LedgerLoop.Library.PyText
import LedgerLoop.Library.Traverse
import LedgerLoop.Webhooks.Adapters

/-!
# Provider signatures

Port of `webhooks/signatures.py`. A verifier has a verdict or raises: `hmac.compare_digest` takes ASCII
text only, and neither what follows `v1=` nor a bare header is checked before it is compared
(`verify_ok_iff`).

A header arrives as Latin-1, so its text has no surrogates.
-/

set_option autoImplicit false

namespace LedgerLoop
open LedgerLoop.Library

namespace Signatures

/-- `DEFAULT_TOLERANCE`. -/
def defaultTolerance : Timedelta := .seconds 300

/-- `SIGNATURE_HEADER`. -/
def signatureHeader : WebhookProvider → String
  | .stripe => "Stripe-Signature"
  | .razorpay => "X-Razorpay-Signature"
  | .custom => "X-LedgerLoop-Signature"

/-- `Verdict`. -/
structure Verdict where
  ok : Bool
  reason : String := ""
deriving DecidableEq, Repr

def missingHeader : Verdict := { ok := false, reason := "missing signature header" }

def mismatch : Verdict := { ok := false, reason := "signature mismatch" }

/-- `str.isascii` of one character. -/
def isAscii (c : Char) : Bool := c.toNat < 128

/-- `hmac.compare_digest` of two strings. -/
def compareDigest (expected candidate : List Char) : Except Raised Bool :=
  if (expected ++ candidate).all isAscii then .ok (expected == candidate) else .error .typeError

/-- `any(hmac.compare_digest(expected, candidate) for candidate in candidates)`. -/
def anyMatches (expected : List Char) : List (List Char) → Except Raised Bool
  | [] => .ok false
  | candidate :: candidates => do
    if ← compareDigest expected candidate then .ok true else anyMatches expected candidates

/-- One part of a Stripe header: `t` sets the timestamp, `v1` adds a candidate. -/
def readPart (read : Option (List Char) × List (List Char)) (part : List Char) :
    Option (List Char) × List (List Char) :=
  match PyText.partition '=' (PyText.strip PyText.isSpace part) with
  | (_, none) => read
  | (key, some value) =>
    if key = ['t'] then (some value, read.2)
    else if key = ['v', '1'] then (read.1, read.2 ++ [value])
    else read

/-- The timestamp and the candidates of a Stripe header. -/
def readHeader (header : List Char) : Option (List Char) × List (List Char) :=
  (header.splitOn ',').foldl readPart (none, [])

section
variable (rt : Runtime)

/-- `f"{timestamp}.".encode() + raw_body`. -/
def signedPayload (timestamp : List Char) (rawBody : List UInt8) : List UInt8 :=
  (String.ofList (timestamp ++ ['.'])).toUTF8.data.toList ++ rawBody

/-- `datetime.fromtimestamp(int(timestamp), tz=now.tzinfo)`. -/
def signedAt (timestamp : List Char) : Option Datetime :=
  (rt.intOfStr (timestamp.map Char.toNat)).bind Adapters.fromTimestamp

/-- `verify_stripe`. -/
def verifyStripe (rawBody : List UInt8) (header : Option String) (secret : String) (now : Datetime)
    (tolerance : Timedelta) : Except Raised Verdict :=
  let header := (header.getD "").toList
  if header = [] then .ok missingHeader
  else
    match readHeader header with
    | (none, _) | (_, []) => .ok { ok := false, reason := "malformed signature header" }
    | (some timestamp, candidates) =>
      match signedAt rt timestamp with
      | none => .ok { ok := false, reason := "malformed signature timestamp" }
      | some signedAt =>
        if tolerance < |now.diff signedAt| then
          .ok { ok := false, reason := "timestamp outside tolerance" }
        else do
          let expected := (rt.hexdigest secret (signedPayload timestamp rawBody)).text.toList
          if ← anyMatches expected candidates then .ok { ok := true } else .ok mismatch

/-- The body of `verify_razorpay` and `verify_custom`. -/
def verifyBare (rawBody : List UInt8) (header : Option String) (secret : String) :
    Except Raised Verdict :=
  let header := (header.getD "").toList
  if header = [] then .ok missingHeader
  else do
    let expected := (rt.hexdigest secret rawBody).text.toList
    if ← compareDigest expected (PyText.strip PyText.isSpace header) then .ok { ok := true }
    else .ok mismatch

/-- `verify_razorpay`. -/
def verifyRazorpay : List UInt8 → Option String → String → Except Raised Verdict := verifyBare rt

/-- `verify_custom`. -/
def verifyCustom : List UInt8 → Option String → String → Except Raised Verdict := verifyBare rt

/-- `verify`. -/
def verify (provider : WebhookProvider) (rawBody : List UInt8) (header : Option String)
    (secret : String) (now : Datetime) (tolerance : Timedelta) : Except Raised Verdict :=
  match provider with
  | .stripe => verifyStripe rt rawBody header secret now tolerance
  | .razorpay => verifyRazorpay rt rawBody header secret
  | .custom => verifyCustom rt rawBody header secret

/-- What `compare_digest` is called with is ASCII: a bare header without the blanks around it, and every
    candidate of a Stripe header within the tolerance that no match precedes. -/
def Comparable (provider : WebhookProvider) (rawBody : List UInt8) (header : Option String)
    (secret : String) (now : Datetime) (tolerance : Timedelta) : Prop :=
  let header := (header.getD "").toList
  match provider with
  | .stripe => ∀ timestamp instant before candidate after,
      readHeader header = (some timestamp, before ++ candidate :: after) →
      signedAt rt timestamp = some instant → |now.diff instant| ≤ tolerance →
      (rt.hexdigest secret (signedPayload timestamp rawBody)).text.toList ∉ before →
      ∀ c ∈ candidate, isAscii c = true
  | .razorpay | .custom => ∀ c ∈ PyText.strip PyText.isSpace header, isAscii c = true

end

section
variable {rt : Runtime} {expected candidate : List Char} {candidates : List (List Char)}

/-- A digest is ASCII. -/
lemma ascii_hexDigest (d : HexDigest) : ∀ c ∈ d.text.toList, isAscii c = true := by
  intro c mem
  have bound : c.toNat < 128 := by
    have hex := List.all_eq_true.1 d.hex c mem
    simp only [Bool.or_eq_true, Bool.and_eq_true, decide_eq_true_eq] at hex
    rcases hex with digit | ⟨_, le⟩
    · exact lt_of_le_of_lt (Char.isDigit_iff_toNat.1 digit).2 (by decide)
    · exact lt_of_le_of_lt (show c.toNat ≤ 'f'.toNat from le) (by decide)
  exact decide_eq_true bound

/-- `compare_digest` compares ASCII texts. -/
lemma compareDigest_of_ascii (ascii : ∀ c ∈ expected, isAscii c = true)
    (ascii' : ∀ c ∈ candidate, isAscii c = true) :
    compareDigest expected candidate = .ok (expected == candidate) := by
  rw [compareDigest, if_pos]
  rw [List.all_append, Bool.and_eq_true, List.all_eq_true, List.all_eq_true]
  exact ⟨ascii, ascii'⟩

lemma ascii_of_compareDigest {same : Bool} (ok : compareDigest expected candidate = .ok same) :
    ∀ c ∈ candidate, isAscii c = true := by
  unfold compareDigest at ok
  split_ifs at ok with ascii
  rw [List.all_append, Bool.and_eq_true, List.all_eq_true, List.all_eq_true] at ascii
  exact ascii.2

/-- The candidates are compared up to the first match. -/
lemma anyMatches_ok_iff (ascii : ∀ c ∈ expected, isAscii c = true) :
    (∃ found, anyMatches expected candidates = .ok found) ↔
      ∀ before candidate after, candidates = before ++ candidate :: after → expected ∉ before →
        ∀ c ∈ candidate, isAscii c = true := by
  induction candidates with
  | nil =>
    refine ⟨fun _ before candidate after split => ?_, fun _ => ⟨false, rfl⟩⟩
    cases (List.append_eq_nil_iff.1 split.symm).2
  | cons first rest ih =>
    by_cases first_ascii : ∀ c ∈ first, isAscii c = true
    · have compared := compareDigest_of_ascii ascii first_ascii
      by_cases same : expected = first
      · refine ⟨fun _ before candidate after split unmatched => ?_, fun _ => ⟨true, ?_⟩⟩
        · cases before with
          | nil => exact (List.cons.inj split).1 ▸ first_ascii
          | cons x before =>
            obtain ⟨rfl, _⟩ := List.cons.inj split
            exact absurd (same ▸ List.mem_cons_self) unmatched
        · rw [anyMatches, compared, same, beq_self_eq_true]
          rfl
      · have skip : anyMatches expected (first :: rest) = anyMatches expected rest := by
          rw [anyMatches, compared, beq_false_of_ne same]
          rfl
        rw [skip, ih]
        constructor
        · intro h before candidate after split unmatched
          cases before with
          | nil => exact (List.cons.inj split).1 ▸ first_ascii
          | cons x before =>
            exact h before candidate after (List.cons.inj split).2
              fun mem => unmatched (List.mem_cons_of_mem _ mem)
        · intro h before candidate after split unmatched
          refine h (first :: before) candidate after (by rw [split]; rfl) fun mem => ?_
          rcases List.mem_cons.1 mem with eq | mem
          · exact same eq
          · exact unmatched mem
    · constructor
      · rintro ⟨found, ok⟩
        simp only [anyMatches, bind, Except.bind] at ok
        split at ok
        · cases ok
        · rename_i same compared
          exact absurd (ascii_of_compareDigest compared) first_ascii
      · intro h
        exact absurd (h [] first rest rfl List.not_mem_nil) first_ascii

end

section
variable {rt : Runtime} {provider : WebhookProvider} {rawBody : List UInt8} {header : Option String}
  {secret : String} {now : Datetime} {tolerance : Timedelta}

lemma verifyBare_ok_iff : (∃ verdict, verifyBare rt rawBody header secret = .ok verdict) ↔
    ∀ c ∈ PyText.strip PyText.isSpace (header.getD "").toList, isAscii c = true := by
  unfold verifyBare
  by_cases empty : (header.getD "").toList = []
  · simp [empty, PyText.strip]
  · simp only [empty, if_false, bind, Except.bind]
    constructor
    · rintro ⟨verdict, ok⟩
      split at ok
      · cases ok
      · rename_i same compared
        exact ascii_of_compareDigest compared
    · intro ascii
      rw [compareDigest_of_ascii (ascii_hexDigest _) ascii]
      simp only
      split_ifs
      · exact ⟨_, rfl⟩
      · exact ⟨_, rfl⟩

/-- A Stripe delivery is refused before its digests are compared, or they are compared. -/
lemma verifyStripe_cases :
    (∃ reason, verifyStripe rt rawBody header secret now tolerance =
        .ok { ok := false, reason := reason } ∧
      ∀ timestamp candidates instant,
        readHeader (header.getD "").toList = (some timestamp, candidates) →
        signedAt rt timestamp = some instant → |now.diff instant| ≤ tolerance → candidates = []) ∨
    ∃ timestamp candidates instant,
      readHeader (header.getD "").toList = (some timestamp, candidates) ∧
      signedAt rt timestamp = some instant ∧ |now.diff instant| ≤ tolerance ∧
      verifyStripe rt rawBody header secret now tolerance =
        (anyMatches (rt.hexdigest secret (signedPayload timestamp rawBody)).text.toList candidates).map
          fun found => if found then { ok := true } else mismatch := by
  unfold verifyStripe
  by_cases empty : (header.getD "").toList = []
  · simp only [empty, if_true]
    refine .inl ⟨_, rfl, fun timestamp candidates instant read => ?_⟩
    cases (Prod.mk.inj read).1
  simp only [empty, if_false]
  rcases read : readHeader (header.getD "").toList with ⟨timestamp, candidates⟩
  cases timestamp with
  | none => exact .inl ⟨_, rfl, fun _ _ _ eq => by cases (Prod.mk.inj eq).1⟩
  | some timestamp =>
    cases candidates with
    | nil => exact .inl ⟨_, rfl, fun _ _ _ eq _ _ => (Prod.mk.inj eq).2.symm⟩
    | cons first rest =>
      simp only
      cases signed : signedAt rt timestamp with
      | none =>
        refine .inl ⟨_, rfl, fun timestamp' _ instant eq signed' => ?_⟩
        cases Option.some.inj (Prod.mk.inj eq).1
        cases signed.symm.trans signed'
      | some instant =>
        simp only
        by_cases late : tolerance < |now.diff instant|
        · simp only [late, if_true]
          refine .inl ⟨_, rfl, fun timestamp' _ instant' eq signed' near => ?_⟩
          cases Option.some.inj (Prod.mk.inj eq).1
          cases Option.some.inj (signed.symm.trans signed')
          exact absurd near late.not_ge
        · simp only [late, if_false, bind, Except.bind]
          refine .inr ⟨timestamp, first :: rest, instant, rfl, signed, not_lt.1 late, ?_⟩
          cases anyMatches (rt.hexdigest secret (signedPayload timestamp rawBody)).text.toList
            (first :: rest) with
          | error e => rfl
          | ok found => cases found <;> rfl

lemma verifyStripe_ok_iff :
    (∃ verdict, verifyStripe rt rawBody header secret now tolerance = .ok verdict) ↔
      Comparable rt .stripe rawBody header secret now tolerance := by
  rcases @verifyStripe_cases rt rawBody header secret now tolerance with
    ⟨reason, refused, none⟩ | ⟨timestamp, candidates, instant, read, signed, near, compared⟩
  · refine ⟨fun _ timestamp instant before candidate after read signed near => ?_, fun _ => ⟨_, refused⟩⟩
    cases (List.append_eq_nil_iff.1 (none _ _ _ read signed near)).2
  · have matched := @anyMatches_ok_iff _ candidates
      (ascii_hexDigest (rt.hexdigest secret (signedPayload timestamp rawBody)))
    constructor
    · rintro ⟨verdict, ok⟩ timestamp' instant' before candidate after read' _ _ unmatched
      cases read.symm.trans read'
      rw [compared] at ok
      obtain ⟨found, found_eq, _⟩ := map_eq_ok.1 ok
      exact matched.1 ⟨found, found_eq⟩ before candidate after rfl unmatched
    · intro ascii
      obtain ⟨found, found_eq⟩ := matched.2 fun before candidate after split unmatched =>
        ascii timestamp instant before candidate after (split ▸ read) signed near unmatched
      exact ⟨_, by rw [compared, found_eq]; rfl⟩

/-- A verifier has a verdict iff what it compares is ASCII. -/
lemma verify_ok_iff : (∃ verdict, verify rt provider rawBody header secret now tolerance = .ok verdict) ↔
    Comparable rt provider rawBody header secret now tolerance := by
  cases provider with
  | stripe => exact verifyStripe_ok_iff
  | razorpay => exact verifyBare_ok_iff
  | custom => exact verifyBare_ok_iff

end

end Signatures
end LedgerLoop
