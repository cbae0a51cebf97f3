import LedgerLoop.Library.PyInt
import LedgerLoop.Webhooks.Signatures

/-!
# What a Stripe signature authenticates

`sign` of `webhooks/signatures.py`, and what `verify` accepts of a Stripe source: the raw text of the last
`t` of the header, a dot and the raw body, as the holder of the secret signed them. `int` is looser than
the text that is signed, but it takes no dot, so the signed bytes split at their first dot in one way.

`sign` computes the second of an instant in binary64. Up to 2514 that is the second the instant is in; the
last microsecond of the year 9999 is rounded to an instant that `fromtimestamp` does not have.
-/

set_option autoImplicit false

namespace LedgerLoop
open LedgerLoop.Library

namespace Signatures

/-- 1970-01-01T00:00:00Z, in microseconds. -/
def epoch : ℤ := 62135596800 * 1000000

/-- `int(now.timestamp())`. -/
def posixSeconds (now : Datetime) : ℤ := Binary64.truncate (Timedelta.totalSeconds (now.us - epoch))

/-- `f"t={timestamp},v1={digest}"`. -/
def stripeHeader (timestamp : ℤ) (digest : HexDigest) : List Char :=
  ['t', '='] ++ PyInt.str timestamp ++ [','] ++ (['v', '1', '='] ++ digest.text.toList)

/-- `sign`. -/
def sign (rt : Runtime) (provider : WebhookProvider) (rawBody : List UInt8) (secret : String)
    (now : Datetime) : String :=
  match provider with
  | .stripe =>
    let timestamp := posixSeconds now
    .ofList (stripeHeader timestamp (rt.hexdigest secret (signedPayload (PyInt.str timestamp) rawBody)))
  | .razorpay | .custom => (rt.hexdigest secret rawBody).text

/-- The key and the value of a part of a header. -/
def entryOf (part : List Char) : List Char × Option (List Char) :=
  PyText.partition '=' (PyText.strip PyText.isSpace part)

/-- The value of a part that has a key. -/
def valueOf (key part : List Char) : Option (List Char) :=
  if (entryOf part).1 = key then (entryOf part).2 else none

/-- The values of a key in a Stripe header, in order. -/
def valuesOf (key header : List Char) : List (List Char) :=
  (header.splitOn ',').filterMap (valueOf key)

/-- A Stripe source takes a delivery for one of the provider. -/
def Accepts (rt : Runtime) (rawBody : List UInt8) (header : Option String) (secret : String)
    (now : Datetime) (tolerance : Timedelta) : Prop :=
  ∃ verdict, verify rt .stripe rawBody header secret now tolerance = .ok verdict ∧ verdict.ok = true

/-- What a header can contain of digests under a secret: those that its holder has computed, each for one
    payload. -/
structure Unforged (rt : Runtime) (secret : String) (signed : Set (List UInt8)) (header : List Char) :
    Prop where
  computed : ∀ value ∈ valuesOf ['v', '1'] header, ∀ payload,
    (rt.hexdigest secret payload).text.toList = value →
      ∃ own ∈ signed, (rt.hexdigest secret own).text.toList = value
  injective : ∀ own ∈ signed, ∀ payload,
    (rt.hexdigest secret payload).text = (rt.hexdigest secret own).text → payload = own

/-- `header'` is a header of two parts with further `v1` entries, of ASCII characters where they precede
    its own. -/
def WithEntries (header header' : List Char) : Prop :=
  ∃ first second before between after, header.splitOn ',' = [first, second] ∧
    header'.splitOn ',' = before ++ first :: (between ++ second :: after) ∧
    (∀ part ∈ before ++ between ++ after, ∃ value, entryOf part = (['v', '1'], some value)) ∧
    ∀ part ∈ before ++ between, ∀ c ∈ part, isAscii c = true

section
variable {rt : Runtime} {rawBody : List UInt8} {header : Option String} {secret : String}
  {now s : Datetime} {tolerance : Timedelta} {text text' expected timestamp : List Char}
  {candidates : List (List Char)}

/-- A step of the loop over the parts, by the entry of the part. -/
lemma readPart_eq (read : Option (List Char) × List (List Char)) (part : List Char) :
    readPart read part =
      ((valueOf ['t'] part).or read.1, read.2 ++ (valueOf ['v', '1'] part).toList) := by
  unfold readPart valueOf
  rw [← entryOf]
  rcases entryOf part with ⟨key, value⟩
  cases value with
  | none => simp
  | some value =>
    by_cases t : key = ['t']
    · simp [t]
    · by_cases v1 : key = ['v', '1']
      · simp [v1]
      · simp [t, v1]

/-- The loop keeps the last `t` and collects the `v1`s. -/
lemma readHeader_eq : readHeader text =
    ((valuesOf ['t'] text).getLast?, valuesOf ['v', '1'] text) := by
  unfold readHeader valuesOf
  generalize text.splitOn ',' = parts
  induction parts using List.reverseRecOn with
  | nil => rfl
  | append_singleton parts part ih =>
    have single (f : List Char → Option (List Char)) : [part].filterMap f = (f part).toList := by
      cases eq : f part <;> simp [eq]
    have last (value : Option (List Char)) : value.toList.getLast? = value := by cases value <;> rfl
    rw [List.foldl_append, ih, List.foldl_cons, List.foldl_nil, readPart_eq, List.filterMap_append,
      List.filterMap_append, List.getLast?_append, single, single, last]

/-- A match is found iff what precedes it can be compared. -/
lemma anyMatches_true_iff (ascii : ∀ c ∈ expected, isAscii c = true) :
    anyMatches expected candidates = .ok true ↔
      ∃ before after, candidates = before ++ expected :: after ∧
        ∀ candidate ∈ before, ∀ c ∈ candidate, isAscii c = true := by
  induction candidates with
  | nil => simp [anyMatches]
  | cons first rest ih =>
    constructor
    · intro found
      simp only [anyMatches, bind, Except.bind] at found
      split at found
      · cases found
      rename_i same compared
      have first_ascii := ascii_of_compareDigest compared
      rw [compareDigest_of_ascii ascii first_ascii] at compared
      obtain rfl := Except.ok.inj compared
      split_ifs at found with eq
      · exact ⟨[], rest, by rw [eq_of_beq eq]; rfl, by simp⟩
      · obtain ⟨before, after, rfl, before_ascii⟩ := ih.1 found
        refine ⟨first :: before, after, rfl, fun candidate mem => ?_⟩
        rcases List.mem_cons.1 mem with rfl | mem
        · exact first_ascii
        · exact before_ascii candidate mem
    · rintro ⟨before, after, split, before_ascii⟩
      cases before with
      | nil =>
        obtain ⟨rfl, rfl⟩ := List.cons.inj split
        simp [anyMatches, compareDigest_of_ascii ascii ascii, bind, Except.bind]
      | cons x before =>
        obtain ⟨rfl, rfl⟩ := List.cons.inj split
        have rest := ih.2 ⟨before, after, rfl, fun candidate mem =>
          before_ascii candidate (List.mem_cons_of_mem _ mem)⟩
        simp only [anyMatches, compareDigest_of_ascii ascii (before_ascii _ List.mem_cons_self), bind,
          Except.bind, rest]
        split_ifs <;> rfl

/-- What is accepted: the digest of the last `t` and the body, at an instant within the tolerance, where
    what precedes it can be compared. -/
lemma accepts_iff : Accepts rt rawBody header secret now tolerance ↔
    ∃ timestamp instant before after,
      (valuesOf ['t'] (header.getD "").toList).getLast? = some timestamp ∧
      signedAt rt timestamp = some instant ∧ |now.diff instant| ≤ tolerance ∧
      valuesOf ['v', '1'] (header.getD "").toList =
        before ++ (rt.hexdigest secret (signedPayload timestamp rawBody)).text.toList :: after ∧
      ∀ candidate ∈ before, ∀ c ∈ candidate, isAscii c = true := by
  simp only [Accepts, verify]
  rcases @verifyStripe_cases rt rawBody header secret now tolerance with
    ⟨reason, refused, none⟩ | ⟨timestamp, candidates, instant, read, signed, near, compared⟩
  · rw [readHeader_eq] at none
    constructor
    · rintro ⟨verdict, eq, ok⟩
      cases Except.ok.inj (refused.symm.trans eq)
      cases ok
    · rintro ⟨timestamp, instant, before, after, last, signed, near, values, _⟩
      cases (List.append_eq_nil_iff.1 (values.symm.trans
        (none timestamp _ instant (by rw [last]) signed near))).2
  · rw [readHeader_eq] at read
    obtain ⟨last, rfl⟩ := Prod.mk.inj read
    have matched := @anyMatches_true_iff _ (valuesOf ['v', '1'] (header.getD "").toList)
      (ascii_hexDigest (rt.hexdigest secret (signedPayload timestamp rawBody)))
    constructor
    · rintro ⟨verdict, eq, ok⟩
      rw [compared] at eq
      obtain ⟨found, found_eq, rfl⟩ := map_eq_ok.1 eq
      cases found with
      | false => cases ok
      | true =>
        obtain ⟨before, after, same⟩ := matched.1 found_eq
        exact ⟨timestamp, instant, before, after, last, signed, near, same⟩
    · rintro ⟨timestamp', _, before, after, last', _, _, same⟩
      cases last.symm.trans last'
      exact ⟨_, by rw [compared, matched.2 ⟨before, after, same⟩]; rfl, rfl⟩

/-- The instant of a timestamp is the second that `int` reads. -/
lemma fromTimestamp_eq_some {n : ℤ} {instant : Datetime} :
    Adapters.fromTimestamp n = some instant ↔ instant.us = epoch + n * 1000000 := by
  have shift : (n + 62135596800) * 1000000 = epoch + n * 1000000 := by
    unfold epoch
    ring
  rw [Adapters.fromTimestamp, shift, ← Datetime.ofUs_eq_ok]
  cases Datetime.ofUs (epoch + n * 1000000) with
  | error e => simp [Except.toOption]
  | ok d => simp [Except.toOption]

/-- The bytes signed for an accepted timestamp split at their first dot. -/
lemma signedPayload_split {n : ℤ} (read : PyInt.int timestamp = some n) :
    (signedPayload timestamp rawBody).takeWhile (· != 46) = PyText.encode timestamp ∧
      (signedPayload timestamp rawBody).dropWhile (· != 46) = 46 :: rawBody := by
  have payload : signedPayload timestamp rawBody = PyText.encode timestamp ++ 46 :: rawBody := by
    have dot : PyText.encode ['.'] = [46] := by decide
    change PyText.encode (timestamp ++ ['.']) ++ rawBody = _
    rw [PyText.encode_append, dot, List.append_assoc]
    rfl
  have plain : ∀ b ∈ PyText.encode timestamp, (b != 46) = true := fun b mem => by
    refine bne_iff_ne.2 fun eq => ?_
    rw [eq] at mem
    exact @PyText.byte_notMem_encode '.' timestamp (by decide) (PyInt.dot_notMem_of_int read) mem
  rw [payload, List.takeWhile_append_of_pos plain, List.dropWhile_append_of_pos plain]
  simp

variable (int : ∀ s : List Char, rt.intOfStr (s.map Char.toNat) = PyInt.int s)
include int

lemma signedAt_eq : signedAt rt timestamp = (PyInt.int timestamp).bind Adapters.fromTimestamp := by
  rw [signedAt, int]

/-- What is accepted was signed: the last `t`, a dot, and the body. -/
lemma signed_of_accepts {signed : Set (List UInt8)}
    (unforged : Unforged rt secret signed (header.getD "").toList)
    (accepts : Accepts rt rawBody header secret now tolerance) :
    ∃ timestamp n payload, payload ∈ signed ∧
      (valuesOf ['t'] (header.getD "").toList).getLast? = some timestamp ∧
      payload.takeWhile (· != 46) = PyText.encode timestamp ∧
      payload.dropWhile (· != 46) = 46 :: rawBody ∧
      PyInt.int timestamp = some n ∧ |now.us - (epoch + n * 1000000)| ≤ tolerance := by
  obtain ⟨timestamp, instant, before, after, last, signed_at, near, values, _⟩ := accepts_iff.1 accepts
  rw [signedAt_eq int, Option.bind_eq_some_iff] at signed_at
  obtain ⟨n, read, at_⟩ := signed_at
  have split := @signedPayload_split rawBody timestamp n read
  obtain ⟨own, mem, same⟩ := unforged.computed _
    (values ▸ List.mem_append_right _ List.mem_cons_self) (signedPayload timestamp rawBody) rfl
  have payload : signedPayload timestamp rawBody = own :=
    unforged.injective own mem _ (String.toList_inj.1 same.symm)
  refine ⟨timestamp, n, own, mem, last, payload ▸ split.1, payload ▸ split.2, read, ?_⟩
  rw [← fromTimestamp_eq_some.1 at_]
  exact near

end

section
variable {rt : Runtime} {rawBody : List UInt8} {secret : String} {now s : Datetime}
  {tolerance : Timedelta} {header header' : List Char} {timestamp : ℤ} {digest : HexDigest}

/-- The seconds of an instant are few enough for `int` to read them. -/
lemma posixSeconds_small : (posixSeconds s).natAbs < 10 ^ PyInt.maxStrDigits := by
  have le := s.nonneg
  have lt := s.bounded
  unfold Datetime.horizon at lt
  have top : Binary64.truncate (Binary64.nearest ((2 ^ 49 : ℕ) : ℚ)) = 2 ^ 49 := by
    rw [Binary64.nearest_natCast (by norm_num)]
    norm_num [Binary64.truncate]
  have range : -(2 ^ 49 : ℤ) ≤ posixSeconds s ∧ posixSeconds s ≤ 2 ^ 49 := by
    unfold posixSeconds Timedelta.totalSeconds epoch
    constructor
    · rw [← top, ← Binary64.truncate_neg, ← Binary64.nearest_neg]
      refine Binary64.truncate_mono (Binary64.nearest_mono ?_)
      rw [le_div_iff₀ (by norm_num)]
      exact_mod_cast (by omega : -(2 ^ 49) * 1000000 ≤ s.us - 62135596800 * 1000000)
    · rw [← top]
      refine Binary64.truncate_mono (Binary64.nearest_mono ?_)
      rw [div_le_iff₀ (by norm_num)]
      exact_mod_cast (by omega : s.us - 62135596800 * 1000000 ≤ 2 ^ 49 * 1000000)
  calc (posixSeconds s).natAbs ≤ 2 ^ 49 := by omega
    _ < 10 ^ 15 := by norm_num
    _ ≤ 10 ^ PyInt.maxStrDigits := Nat.pow_le_pow_right (by norm_num) (by decide)

/-- The second of a duration whose microseconds binary64 tells apart. -/
lemma truncate_totalSeconds {k : ℤ} (nonneg : 0 ≤ k) (small : k < 2 ^ 34 * 1000000) :
    Binary64.truncate (Timedelta.totalSeconds k) = k / 1000000 := by
  have floor : ⌊(k : ℚ) / 1000000⌋ = k / 1000000 := by
    exact_mod_cast Rat.floor_intCast_div_natCast k 1000000
  have nonnegQ : (0 : ℚ) ≤ k := by exact_mod_cast nonneg
  rw [← floor]
  refine Binary64.truncate_nearest (e := 34) (by positivity) ?_ (by norm_num) ?_
  · rw [div_lt_iff₀ (by norm_num)]
    exact_mod_cast small
  · -- a microsecond is more than half a unit in the last place
    obtain ⟨m, quotient⟩ : ∃ m, k / 1000000 = m := ⟨_, rfl⟩
    have whole : ((k + 1 : ℤ) : ℚ) ≤ (((m + 1) * 1000000 : ℤ) : ℚ) := Int.cast_le.2 (by omega)
    push_cast at whole
    have step : (2 : ℚ) ^ ((34 : ℤ) - 54) = 1 / 1048576 := by norm_num
    rw [floor, quotient, step]
    linarith

/-- The second of an instant is the one it is in, up to the year 2514. -/
lemma posixSeconds_eq (near : |s.us - epoch| < 2 ^ 34 * 1000000) :
    posixSeconds s = (s.us - epoch).tdiv 1000000 := by
  have bounds := abs_lt.1 near
  rcases le_total 0 (s.us - epoch) with nonneg | nonpos
  · rw [posixSeconds, truncate_totalSeconds nonneg bounds.2, Int.tdiv_eq_ediv_of_nonneg nonneg]
  · have mirror : Timedelta.totalSeconds (s.us - epoch) =
        -Timedelta.totalSeconds (-(s.us - epoch)) := by
      rw [Timedelta.totalSeconds, Timedelta.totalSeconds, ← Binary64.nearest_neg]
      congr 1
      push_cast
      ring
    have negNonneg : 0 ≤ -(s.us - epoch) := by omega
    rw [posixSeconds, mirror, Binary64.truncate_neg, truncate_totalSeconds negNonneg (by omega),
      ← Int.tdiv_eq_ediv_of_nonneg negNonneg, Int.neg_tdiv, neg_neg]

/-- A digest has neither blanks nor commas. -/
lemma plain_of_mem_digest {c : Char} (mem : c ∈ digest.text.toList) :
    PyText.isSpace c = false ∧ c ≠ ',' := by
  have hex := List.all_eq_true.1 digest.hex c mem
  simp only [Bool.or_eq_true, Bool.and_eq_true, decide_eq_true_eq] at hex
  have range : 48 ≤ c.toNat ∧ c.toNat ≤ 57 ∨ 97 ≤ c.toNat ∧ c.toNat ≤ 102 := by
    rcases hex with digit | ⟨low, high⟩
    · exact .inl (Char.isDigit_iff_toNat.1 digit)
    · exact .inr ⟨low, high⟩
  constructor
  · rw [PyText.isSpace, ← Bool.not_eq_true]
    simp only [Bool.or_eq_true, Bool.and_eq_true, decide_eq_true_eq, beq_iff_eq]
    omega
  · rintro rfl
    revert range
    decide

/-- Nor has a numeral a comma. -/
lemma comma_notMem_str : ',' ∉ PyInt.str timestamp := fun mem => by
  rcases PyInt.of_mem_str mem with eq | digit
  · cases eq
  · cases digit

lemma splitOn_stripeHeader : (stripeHeader timestamp digest).splitOn ',' =
    ['t' :: '=' :: PyInt.str timestamp, 'v' :: '1' :: '=' :: digest.text.toList] := by
  have parts : stripeHeader timestamp digest = [','].intercalate
      ['t' :: '=' :: PyInt.str timestamp, 'v' :: '1' :: '=' :: digest.text.toList] := by
    simp [stripeHeader, List.intercalate]
  rw [parts]
  refine List.splitOn_intercalate ',' (fun part mem => ?_) (by simp)
  simp only [List.mem_cons, List.not_mem_nil, or_false] at mem
  rcases mem with rfl | rfl
  · simp [comma_notMem_str]
  · simp only [List.mem_cons, not_or]
    exact ⟨by decide, by decide, by decide, fun mem => (plain_of_mem_digest mem).2 rfl⟩

/-- The entry of a part without blanks. -/
lemma entryOf_append {key value : List Char} (key_plain : '=' ∉ key)
    (blank : ∀ c ∈ key ++ '=' :: value, PyText.isSpace c = false) :
    entryOf (key ++ '=' :: value) = (key, some value) := by
  have before : ∀ c ∈ key, (c != '=') = true := fun c mem => bne_iff_ne.2 fun eq => key_plain (eq ▸ mem)
  rw [entryOf, PyInt.strip_eq_self blank, PyText.partition, List.takeWhile_append_of_pos before,
    List.dropWhile_append_of_pos before]
  simp

lemma entryOf_timestamp : entryOf ('t' :: '=' :: PyInt.str timestamp) =
    (['t'], some (PyInt.str timestamp)) := by
  refine @entryOf_append ['t'] _ (by decide) fun c mem => ?_
  simp only [List.cons_append, List.nil_append, List.mem_cons] at mem
  rcases mem with rfl | rfl | mem
  · decide
  · decide
  · exact PyInt.not_isSpace_of_mem_str mem

lemma entryOf_digest : entryOf ('v' :: '1' :: '=' :: digest.text.toList) =
    (['v', '1'], some digest.text.toList) := by
  refine @entryOf_append ['v', '1'] _ (by decide) fun c mem => ?_
  simp only [List.cons_append, List.nil_append, List.mem_cons] at mem
  rcases mem with rfl | rfl | rfl | mem
  · decide
  · decide
  · decide
  · exact (plain_of_mem_digest mem).1

/-- The characters of a value are characters of its part. -/
lemma subset_of_entryOf {part key value : List Char} (entry : entryOf part = (key, some value)) :
    value ⊆ part := by
  have strip : PyText.strip PyText.isSpace part ⊆ part := by
    intro c mem
    rw [PyText.strip, List.mem_reverse] at mem
    have mem := (List.dropWhile_sublist _).subset mem
    exact (List.dropWhile_sublist _).subset (List.mem_reverse.1 mem)
  have tail := (Prod.mk.inj entry).2
  cases rest : (PyText.strip PyText.isSpace part).dropWhile (· != '=') with
  | nil =>
    rw [rest] at tail
    cases tail
  | cons sep value' =>
    rw [rest] at tail
    obtain rfl := Option.some.inj tail
    intro c mem
    refine strip ((List.dropWhile_sublist (· != '=')).subset ?_)
    rw [rest]
    exact List.mem_cons_of_mem _ mem

/-- Further `v1` entries leave the last `t` alone. -/
lemma filterMap_timestamp {parts : List (List Char)}
    (entries : ∀ part ∈ parts, ∃ value, entryOf part = (['v', '1'], some value)) :
    parts.filterMap (valueOf ['t']) = [] := by
  refine List.filterMap_eq_nil_iff.2 fun part mem => ?_
  obtain ⟨value, eq⟩ := entries part mem
  simp [valueOf, eq]

/-- The `t` and the `v1` values of a header with further entries. -/
lemma WithEntries.values (more : WithEntries (stripeHeader timestamp digest) header') :
    valuesOf ['t'] header' = [PyInt.str timestamp] ∧
      ∃ before after, valuesOf ['v', '1'] header' = before ++ digest.text.toList :: after ∧
        ∀ candidate ∈ before, ∀ c ∈ candidate, isAscii c = true := by
  obtain ⟨first, second, before, between, after, own, parts, entries, ascii⟩ := more
  rw [splitOn_stripeHeader] at own
  obtain ⟨rfl, rest⟩ := List.cons.inj own
  obtain ⟨rfl, _⟩ := List.cons.inj rest
  have time : valueOf ['t'] ('t' :: '=' :: PyInt.str timestamp) = some (PyInt.str timestamp) ∧
      valueOf ['v', '1'] ('t' :: '=' :: PyInt.str timestamp) = none := by
    simp [valueOf, entryOf_timestamp]
  have signature : valueOf ['t'] ('v' :: '1' :: '=' :: digest.text.toList) = none ∧
      valueOf ['v', '1'] ('v' :: '1' :: '=' :: digest.text.toList) = some digest.text.toList := by
    simp [valueOf, entryOf_digest]
  have entries_of {list : List (List Char)} (sub : list ⊆ before ++ between ++ after) :
      ∀ part ∈ list, ∃ value, entryOf part = (['v', '1'], some value) :=
    fun part mem => entries part (sub mem)
  constructor
  · simp only [valuesOf, parts, List.filterMap_append, List.filterMap_cons, time.1, signature.1]
    rw [filterMap_timestamp (entries_of (by simp)), filterMap_timestamp (entries_of (by simp)),
      filterMap_timestamp (entries_of (by simp))]
    rfl
  · refine ⟨(before ++ between).filterMap (valueOf ['v', '1']), after.filterMap (valueOf ['v', '1']), ?_,
      fun candidate mem c memC => ?_⟩
    · simp only [valuesOf, parts, List.filterMap_append, List.filterMap_cons, time.2, signature.2,
        List.append_assoc]
    · obtain ⟨part, memP, eq⟩ := List.mem_filterMap.1 mem
      unfold valueOf at eq
      split_ifs at eq with key
      exact ascii part memP c (subset_of_entryOf (Prod.ext key eq) memC)

lemma valuesOf_stripeHeader : valuesOf ['t'] (stripeHeader timestamp digest) = [PyInt.str timestamp] ∧
    valuesOf ['v', '1'] (stripeHeader timestamp digest) = [digest.text.toList] := by
  simp [valuesOf, splitOn_stripeHeader, valueOf, entryOf_timestamp, entryOf_digest]

/-- The header that `sign` produces is one with no further entries. -/
lemma withEntries_sign : WithEntries (sign rt .stripe rawBody secret s).toList
    (sign rt .stripe rawBody secret s).toList := by
  rw [sign, String.toList_ofList]
  exact ⟨_, _, [], [], [], splitOn_stripeHeader, splitOn_stripeHeader, by simp, by simp⟩

/-- A signed header is accepted iff the second it was signed in is within the tolerance. -/
lemma accepts_sign_iff (int : ∀ s : List Char, rt.intOfStr (s.map Char.toNat) = PyInt.int s)
    (more : WithEntries (sign rt .stripe rawBody secret s).toList header') :
    Accepts rt rawBody (some (.ofList header')) secret now tolerance ↔
      ∃ instant, Adapters.fromTimestamp (posixSeconds s) = some instant ∧
        |now.diff instant| ≤ tolerance := by
  rw [sign, String.toList_ofList] at more
  obtain ⟨own, before, after, values, ascii⟩ := more.values
  rw [accepts_iff, Option.getD_some, String.toList_ofList, own, values]
  have read : signedAt rt (PyInt.str (posixSeconds s)) = Adapters.fromTimestamp (posixSeconds s) := by
    rw [signedAt_eq int, PyInt.int_str posixSeconds_small, Option.bind_some]
  constructor
  · rintro ⟨timestamp, instant, _, _, last, signed, near, _⟩
    obtain rfl : PyInt.str (posixSeconds s) = timestamp := by simpa using last
    exact ⟨instant, read ▸ signed, near⟩
  · rintro ⟨instant, at_, near⟩
    exact ⟨_, instant, before, after, rfl, read.trans at_, near, rfl, ascii⟩

/-- The second of an instant up to the year 2514 is an instant. -/
lemma exists_second (near : |s.us - epoch| < 2 ^ 34 * 1000000) :
    ∃ instant, Adapters.fromTimestamp (posixSeconds s) = some instant ∧
      instant.us = epoch + (s.us - epoch).tdiv 1000000 * 1000000 := by
  have bounds := abs_lt.1 near
  have second : -(2 ^ 34) ≤ (s.us - epoch).tdiv 1000000 ∧ (s.us - epoch).tdiv 1000000 ≤ 2 ^ 34 := by
    rcases le_total 0 (s.us - epoch) with nonneg | nonpos
    · rw [Int.tdiv_eq_ediv_of_nonneg nonneg]
      omega
    · have mirror : (s.us - epoch).tdiv 1000000 = -(-(s.us - epoch)).tdiv 1000000 := by
        rw [Int.neg_tdiv, neg_neg]
      rw [mirror, Int.tdiv_eq_ediv_of_nonneg (by omega)]
      omega
  have range : 0 ≤ epoch + (s.us - epoch).tdiv 1000000 * 1000000 ∧
      epoch + (s.us - epoch).tdiv 1000000 * 1000000 < Datetime.horizon := by
    unfold Datetime.horizon epoch at *
    omega
  obtain ⟨instant, eq⟩ := Datetime.ofUs_isOk.2 range
  have us := Datetime.ofUs_eq_ok.1 eq
  exact ⟨instant, fromTimestamp_eq_some.2 (posixSeconds_eq near ▸ us), us⟩

end

/-- What a Stripe signature authenticates. Where `int` is Python's and the digests in a header are ones
    that the holder of the secret computed: a delivery is accepted only if its holder signed the bytes
    that start with the last `t` of the header, go on with a dot as their first, and end with the body,
    and the second that `t` names is within the tolerance. A header that `sign` produced, also with
    further entries, is accepted iff the second of the signing is an instant within the tolerance; up to
    the year 2514 it is that of the instant. -/
theorem stripe_signature_authentic (rt : Runtime) (secret : String)
    (int : ∀ s : List Char, rt.intOfStr (s.map Char.toNat) = PyInt.int s) :
    (∀ signed header rawBody now tolerance, Unforged rt secret signed (header.getD "").toList →
      Accepts rt rawBody header secret now tolerance →
      ∃ timestamp n payload, payload ∈ signed ∧
        (valuesOf ['t'] (header.getD "").toList).getLast? = some timestamp ∧
        payload.takeWhile (· != 46) = PyText.encode timestamp ∧
        payload.dropWhile (· != 46) = 46 :: rawBody ∧
        PyInt.int timestamp = some n ∧ |now.us - (epoch + n * 1000000)| ≤ tolerance) ∧
    (∀ rawBody s, WithEntries (sign rt .stripe rawBody secret s).toList
      (sign rt .stripe rawBody secret s).toList) ∧
    ∀ rawBody s now tolerance header', WithEntries (sign rt .stripe rawBody secret s).toList header' →
      (Accepts rt rawBody (some (.ofList header')) secret now tolerance ↔
        ∃ instant, Adapters.fromTimestamp (posixSeconds s) = some instant ∧
          |now.diff instant| ≤ tolerance) ∧
      (|s.us - epoch| < 2 ^ 34 * 1000000 →
        (Accepts rt rawBody (some (.ofList header')) secret now tolerance ↔
          |now.us - (epoch + (s.us - epoch).tdiv 1000000 * 1000000)| ≤ tolerance)) := by
  refine ⟨fun signed header rawBody now tolerance unforged accepts =>
      signed_of_accepts int unforged accepts, fun rawBody s => withEntries_sign,
    fun rawBody s now tolerance header' more => ⟨accepts_sign_iff int more, fun near => ?_⟩⟩
  obtain ⟨instant, at_, second⟩ := exists_second near
  rw [accepts_sign_iff int more, ← second, at_]
  simp [Datetime.diff]

namespace StripeSample

/-- The body of a delivery: a pair of braces. -/
def body : List UInt8 := [123, 125]

/-- What is signed of it at the first instant of 2024. -/
def payload : List UInt8 := signedPayload (PyInt.str 1704067200) body

/-- The digest of that payload under the secret `whsec_test`. -/
def digest : HexDigest where
  text := "010ba094ab64507683a35381e8d797cde0e2faf00a3676447ce9d93d4e5dd4dc"
  length := by decide +kernel
  hex := by decide +kernel

def runtime : Runtime :=
  { WebhookSample.runtime with
    hexdigest := fun _ p => if p = payload then digest else WebhookSample.digest
    intOfStr := fun s => PyInt.int (s.map Char.ofNat) }

lemma runtime_int (s : List Char) : runtime.intOfStr (s.map Char.toNat) = PyInt.int s := by
  change PyInt.int ((s.map Char.toNat).map Char.ofNat) = _
  rw [List.map_map]
  have same : Char.ofNat ∘ Char.toNat = id := funext Char.ofNat_toNat
  rw [same, List.map_id]

lemma hexdigest_payload : runtime.hexdigest "whsec_test" payload = digest := by
  change (if payload = payload then digest else WebhookSample.digest) = digest
  exact if_pos rfl

lemma second : posixSeconds (.newYear 0) = 1704067200 :=
  posixSeconds_eq (by decide)

lemma sign_eq : sign runtime .stripe body "whsec_test" (.newYear 0) =
    .ofList (stripeHeader 1704067200 digest) := by
  rw [sign, second, ← hexdigest_payload]
  rfl

lemma unforged : Unforged runtime "whsec_test" {payload}
    (sign runtime .stripe body "whsec_test" (.newYear 0)).toList where
  computed value mem p _ := by
    rw [sign_eq, String.toList_ofList, valuesOf_stripeHeader.2] at mem
    exact ⟨payload, rfl, by rw [hexdigest_payload, List.mem_singleton.1 mem]⟩
  injective own mem p same := by
    obtain rfl := Set.mem_singleton_iff.1 mem
    by_contra other
    have ne : runtime.hexdigest "whsec_test" p = WebhookSample.digest := if_neg other
    rw [ne, hexdigest_payload] at same
    revert same
    decide

/-- The last instant there is. -/
def last : Datetime := ⟨Datetime.horizon - 1, by decide, by decide⟩

end StripeSample

/-- A delivery accepted within the tolerance, and refused beyond it. -/
theorem stripe_signature_authentic_sample :
    (∃ timestamp n payload, payload ∈ ({StripeSample.payload} : Set (List UInt8)) ∧
      (valuesOf ['t'] (sign StripeSample.runtime .stripe StripeSample.body "whsec_test"
        (.newYear 0)).toList).getLast? = some timestamp ∧
      payload.takeWhile (· != 46) = PyText.encode timestamp ∧
      payload.dropWhile (· != 46) = 46 :: StripeSample.body ∧
      PyInt.int timestamp = some n ∧
      |(Datetime.newYear 200).us - (epoch + n * 1000000)| ≤ defaultTolerance) ∧
    ¬Accepts StripeSample.runtime StripeSample.body
      (some (sign StripeSample.runtime .stripe StripeSample.body "whsec_test" (.newYear 0))) "whsec_test"
      (.newYear 400) defaultTolerance := by
  have both := stripe_signature_authentic StripeSample.runtime "whsec_test" StripeSample.runtime_int
  have accepts (now : Datetime) := (both.2.2 StripeSample.body (.newYear 0) now defaultTolerance _
    (both.2.1 StripeSample.body (.newYear 0))).2 (by decide)
  simp only [String.ofList_toList] at accepts
  refine ⟨both.1 {StripeSample.payload} (some (sign StripeSample.runtime .stripe StripeSample.body
    "whsec_test" (.newYear 0))) StripeSample.body (.newYear 200) defaultTolerance StripeSample.unforged
    ((accepts (.newYear 200)).2 (by decide)), ?_⟩
  rw [accepts]
  decide

/-- The header signed in the last microsecond of the year 9999 is refused in that microsecond. -/
theorem last_instant_refused :
    ¬Accepts StripeSample.runtime StripeSample.body
      (some (sign StripeSample.runtime .stripe StripeSample.body "whsec_test" StripeSample.last)) "whsec_test"
      StripeSample.last defaultTolerance ∧
    |StripeSample.last.us - (epoch + (StripeSample.last.us - epoch).tdiv 1000000 * 1000000)| ≤
      defaultTolerance := by
  have rounded : posixSeconds StripeSample.last = 253402300800 := by
    have seconds : Timedelta.totalSeconds (StripeSample.last.us - epoch) =
        (8303486592614400 : ℤ) * (2 : ℚ) ^ (37 - 52 : ℤ) :=
      Binary64.nearest_eq (by norm_num [StripeSample.last, epoch, Datetime.horizon])
        (by norm_num [StripeSample.last, epoch, Datetime.horizon])
        (by norm_num [StripeSample.last, epoch, Datetime.horizon, Binary64.halfEven])
    rw [posixSeconds, seconds]
    norm_num [Binary64.truncate]
  have refused := @accepts_sign_iff StripeSample.runtime StripeSample.body "whsec_test" StripeSample.last
    StripeSample.last defaultTolerance _ StripeSample.runtime_int withEntries_sign
  rw [String.ofList_toList, rounded] at refused
  refine ⟨fun accepts => ?_, by decide⟩
  obtain ⟨instant, at_, _⟩ := refused.1 accepts
  have none : Adapters.fromTimestamp 253402300800 = none := by decide
  rw [none] at at_
  cases at_

end Signatures
end LedgerLoop
