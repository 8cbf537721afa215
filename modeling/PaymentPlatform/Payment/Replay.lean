import PaymentPlatform.Lib.JsonObjects
import PaymentPlatform.Payment.Claims

/-! A response that was stored for replay is read back as the receipt that was
returned. -/

namespace PaymentPlatform.Payment

open Framing Ledger Serial

variable {E : Engine}

/-- What the database documents about STRING and JSONB values: a STRING is UTF-8,
and a stored document is printed as the same document, with its members in some
order and its integers unchanged. -/
structure ReadsBack (E : Engine) : Prop where
  text : ∀ text, E.acceptsText text = true → Json.utf8 (Json.text text) = text
  document : ∀ raw value stored, Json.parse raw = some value → value.Integral →
    E.parseJsonb raw = some stored →
    ∃ read, Json.parse (E.jsonbText stored) = some read ∧ Json.Similar value read

theorem ReadsBack.parsed (reads : ReadsBack E) {raw : Bytes} {value : Json.Value} {stored : E.Jsonb}
    (parsed : Json.parse raw = some value) (integral : value.Integral)
    (kept : E.parseJsonb raw = some stored) : Json.parse (E.jsonbText stored) = some value := by
  obtain ⟨read, shown, similar⟩ := reads.document raw value stored parsed integral kept
  rw [shown, similar.eq (Json.parse_legal parsed) (Json.parse_legal shown)]

theorem sample_reads_back : ReadsBack sampleEngine where
  text text accepted := Json.utf8_text_ascii (by simpa [sampleEngine] using accepted)
  document raw value stored parsed _ kept := by
    cases kept
    exact ⟨value, parsed, Json.Similar.refl value⟩

theorem decimalDigit_text {d : Nat} (small : d < 10) :
    decimalDigit (UInt8.ofNat (48 + d)) = some d := by
  revert d
  decide

theorem parseNatural_decimal (v : Nat) : parseNatural (decimal v) = some v := by
  have read : ∀ digits : List Nat, (∀ d ∈ digits, d < 10) →
      (digits.map fun d => UInt8.ofNat (48 + d)).mapM decimalDigit = some digits := by
    intro digits small
    induction digits with
    | nil => rfl
    | cons d rest ih =>
      have tail := ih (fun e member => small e (List.mem_cons_of_mem _ member))
      rw [List.map_cons, List.mapM_cons, decimalDigit_text (small d List.mem_cons_self), tail]
      rfl
  have text : decimal v = (numeral 10 v).map fun d => UInt8.ofNat (48 + d) := by
    simp [decimal]
  have nonempty : numeral 10 v ≠ [] := by
    intro empty
    exact (Json.digits_decimal v).1 (by rw [text, empty]; rfl)
  rw [parseNatural, text, read _ (numeral_lt (by decide) v)]
  simp only [Option.bind_eq_bind, Option.bind_some, if_neg nonempty, numeral_value]

theorem parseInteger_decimal (v : Int) : parseInteger (decimal v) = some v := by
  have digits := parseNatural_decimal v.natAbs
  rw [Json.decimal_cases]
  split
  · rename_i negative
    simp only [parseInteger, digits, Option.map_some, Option.some.injEq, Int.ofNat_eq_natCast]
    omega
  · obtain ⟨b, tail, split, digit⟩ := (Json.digits_decimal v.natAbs).head
    have other : b ≠ 45 := by
      intro minus
      rw [minus] at digit
      contradiction
    rw [split] at digits ⊢
    unfold parseInteger
    split
    · rename_i same
      exact absurd (List.cons.inj same).1 other
    · simp only [digits, Option.map_some, Option.some.injEq, Int.ofNat_eq_natCast]
      omega

theorem State.ofText_text (state : State) : State.ofText state.text = some state := by
  cases state <;> decide

theorem integerOf_integer {v : Int} (low : -(2 ^ 63) ≤ v) (high : v < 2 ^ 63) :
    integerOf (jsonInteger v) = some v := by
  simp only [integerOf, jsonInteger, parseInteger_decimal]
  simp only [Option.filter, decide_eq_true low, decide_eq_true high, Bool.and_self, if_true]

theorem byteOf_integer (b : UInt8) : byteOf (jsonInteger b.toNat) = some b := by
  have small := b.toNat_lt
  rw [byteOf, integerOf_integer (by omega) (by omega)]
  simp [small]

theorem bytesOf_hashItems (bytes : Bytes) : bytesOf (hashItems bytes) = some bytes := by
  induction bytes with
  | nil => rfl
  | cons b rest ih => simp [hashItems, bytesOf, byteOf_integer, ih]

theorem digestOf_hash (digest : Digest) : digestOf (.array (hashItems digest.val)) = some digest := by
  simp only [digestOf, bytesOf_hashItems, Option.bind_some, dif_pos digest.property]
  rfl

theorem parseAmount_decimal {v : Int} (fits : fitsDecimal38 v) : parseAmount (decimal v) = some v := by
  simp [parseAmount, parseInteger_decimal, Option.filter, fits]

/-- The fields of a receipt as they stand in the database. -/
structure Readable (E : Engine) (r : Receipt) : Prop where
  texts : ∀ text ∈ [r.paymentId, r.ledger.transactionId, r.ledger.bookId, r.ledger.operationId,
    r.ledger.effectId], E.acceptsText text = true
  amount : fitsDecimal38 r.amount
  version : 0 ≤ r.version ∧ r.version ≤ maxInt8
  sequence : 0 < r.ledger.sequenceNo ∧ r.ledger.sequenceNo ≤ maxInt8

theorem field_object {α : Type} (read : Json.Value → Option α) (name : String)
    (members : List (String × Json.Value)) : field read name (Json.object members) =
      ((members.reverse.find? fun m => m.1 = name).map Prod.snd).bind read := by
  obtain ⟨built, same, found⟩ := Json.find_object name members
  rw [same, field, found]

theorem stringOf_text (reads : ReadsBack E) {text : Bytes} (accepted : E.acceptsText text = true) :
    stringOf (jsonString text) = some text := by
  rw [jsonString, stringOf, reads.text text accepted]

theorem state_text_ascii (state : State) : Json.utf8 (Json.text state.text) = state.text := by
  cases state <;> decide

theorem ledgerReceipt_read (reads : ReadsBack E) {r : Receipt} (readable : Readable E r) :
    ledgerReceiptOf (ledgerReceiptJson r.ledger) = some r.ledger := by
  have text := fun t member => stringOf_text reads (readable.texts t member)
  obtain ⟨low, high⟩ := readable.sequence
  have sequence : integerOf (jsonInteger r.ledger.sequenceNo) = some r.ledger.sequenceNo :=
    integerOf_integer (by omega) (by unfold maxInt8 at high; omega)
  simp [ledgerReceiptOf, ledgerReceiptJson, field_object, text, sequence, digestOf_hash, flagOf]

theorem receipt_read (reads : ReadsBack E) {r : Receipt} (readable : Readable E r) :
    receiptOfJson r.json = some r := by
  have payment := stringOf_text reads (readable.texts r.paymentId (by simp))
  have state : stringOf (jsonString r.state.text) = some r.state.text := by
    rw [jsonString, stringOf, state_text_ascii]
  have amount : stringOf (jsonAmount r.amount) = some (decimal r.amount) := by
    rw [jsonAmount, jsonString, stringOf, Json.utf8_text_ascii (Json.decimal_ascii _)]
  obtain ⟨low, high⟩ := readable.version
  have version : integerOf (jsonInteger r.version) = some r.version :=
    integerOf_integer (by omega) (by unfold maxInt8 at high; omega)
  simp [receiptOfJson, Receipt.json, field_object, payment, state, amount, version,
    ledgerReceipt_read reads readable, flagOf, State.ofText_text, parseAmount_decimal readable.amount]

theorem hashItems_legal (depth : Nat) (bytes : Bytes) : (hashItems bytes).Legal depth := by
  induction bytes with
  | nil => trivial
  | cons b rest ih => exact ⟨Json.numberText_decimal _, ih⟩

theorem ledgerReceipt_legal (depth : Nat) (r : Ledger.Receipt) :
    (ledgerReceiptJson r).Legal (depth + 2) := by
  apply Json.object_legal
  rw [← List.forall_iff_forall_mem]
  exact ⟨trivial, trivial, trivial, trivial, Json.numberText_decimal _, hashItems_legal _ _, trivial⟩

theorem receipt_legal (depth : Nat) (r : Receipt) : r.json.Legal (depth + 3) := by
  apply Json.object_legal
  rw [← List.forall_iff_forall_mem]
  exact ⟨trivial, trivial, trivial, Json.numberText_decimal _, ledgerReceipt_legal _ _, trivial⟩

theorem hashItems_integral (bytes : Bytes) : (hashItems bytes).Integral := by
  induction bytes with
  | nil => trivial
  | cons b rest ih => exact ⟨⟨_, rfl⟩, ih⟩

theorem ledgerReceipt_integral (r : Ledger.Receipt) : (ledgerReceiptJson r).Integral := by
  apply Json.object_integral
  rw [← List.forall_iff_forall_mem]
  exact ⟨trivial, trivial, trivial, trivial, ⟨_, rfl⟩, hashItems_integral _, trivial⟩

theorem receipt_integral (r : Receipt) : r.json.Integral := by
  apply Json.object_integral
  rw [← List.forall_iff_forall_mem]
  exact ⟨trivial, trivial, trivial, ⟨_, rfl⟩, ledgerReceipt_integral _, trivial⟩

theorem ReadsBack.written (reads : ReadsBack E) {value : Json.Value}
    (legal : value.Legal Json.maxNestingDepth) (integral : value.Integral) {payload : E.Jsonb}
    (response : responseJsonb E value = .ok payload) :
    Json.parse (E.jsonbText payload) = some value := by
  simp only [responseJsonb, steps_ok] at response
  obtain ⟨canonical, made, parsed⟩ := response
  have text : canonical = Json.write value := by
    rw [canonicalJson, if_neg (Json.write_ne_nil legal), Json.parse_write legal] at made
    exact (Option.some.inj made).symm
  subst text
  exact reads.parsed (Json.parse_write legal) integral parsed

theorem cachedReceipt_stored (reads : ReadsBack E) {r : Receipt} (readable : Readable E r)
    {payload : E.Jsonb} (response : responseJsonb E r.json = .ok payload) {stored : IdempotencyRow E}
    (kept : stored.responsePayload = some payload) : cachedReceipt stored =
      .ok { r with duplicate := true, ledger := { r.ledger with duplicate := true } } := by
  have shown := reads.written (receipt_legal 9997 r) (receipt_integral r) response
  simp [cachedReceipt, kept, shown, receipt_read reads readable, expect, bind, Except.bind, pure, Except.pure]

end PaymentPlatform.Payment
