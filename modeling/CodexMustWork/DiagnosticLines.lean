import CodexMustWork.DiagnosticFiles
import CodexMustWork.Library.QuotedFields

/-!
# Lines of the diagnostic log

A line mentions an identity exactly when it is the line of an event with that identity:
the key `event_id` stands between quotes in one place of a line only.
-/

namespace CodexMustWork.MonitorDiagnostics

open QuotedFields

/-! ### Texts that need no escapes -/

/-- Printable ASCII without quotes. -/
def Plain (text : String) : Prop :=
  ∀ c ∈ text.toList, 0x20 ≤ c.toNat ∧ c.toNat < 0x80 ∧ c.toNat ≠ 34

instance (text : String) : Decidable (Plain text) := List.decidableBAll _ _

theorem toUInt8_toNat {number : ℕ} (hsmall : number < 0x80) : number.toUInt8.toNat = number := by
  rw [Nat.toUInt8, UInt8.toNat_ofNat']
  omega

/-- A byte of a plain text is the code of one of its characters. -/
theorem mem_ascii {text : String} (hplain : Plain text) {byte : UInt8} (hbyte : byte ∈ ascii text) :
    ∃ c ∈ text.toList, byte.toNat = c.toNat := by
  obtain ⟨c, hc, rfl⟩ := List.mem_map.mp hbyte
  exact ⟨c, hc, toUInt8_toNat (hplain c hc).2.1⟩

theorem quote_notMem {text : String} (hplain : Plain text) : quote ∉ ascii text := by
  intro hquote
  obtain ⟨c, hc, hcode⟩ := mem_ascii hplain hquote
  exact (hplain c hc).2.2 hcode.symm

theorem lineEnd_notMem {text : String} (hplain : Plain text) : lineEnd ∉ ascii text := by
  intro hend
  obtain ⟨c, hc, hcode⟩ := mem_ascii hplain hend
  have hprintable := (hplain c hc).1
  rw [← hcode] at hprintable
  exact absurd hprintable (by decide)

theorem ascii_inj {first second : String} (hfirst : Plain first) (hsecond : Plain second)
    (hsame : ascii first = ascii second) : first = second := by
  rw [← String.toList_inj]
  unfold ascii at hsame
  have hpoint : ∀ (left right : List Char), (∀ c ∈ left, c.toNat < 0x80) →
      (∀ c ∈ right, c.toNat < 0x80) →
      left.map (fun c => c.toNat.toUInt8) = right.map (fun c => c.toNat.toUInt8) → left = right := by
    intro left
    induction left with
    | nil =>
      intro right _ _ hmap
      exact (List.map_eq_nil_iff.mp hmap.symm).symm
    | cons c rest ih =>
      intro right hleft hright hmap
      cases right with
      | nil => cases hmap
      | cons d others =>
        rw [List.map_cons, List.map_cons, List.cons.injEq] at hmap
        have hcode := congrArg UInt8.toNat hmap.1
        rw [toUInt8_toNat (hleft c List.mem_cons_self),
          toUInt8_toNat (hright d List.mem_cons_self)] at hcode
        rw [Char.ext (UInt32.toNat_inj.mp hcode), ih others
          (fun e he => hleft e (List.mem_cons_of_mem _ he))
          (fun e he => hright e (List.mem_cons_of_mem _ he)) hmap.2]
  exact hpoint _ _ (fun c hc => (hfirst c hc).2.1) (fun c hc => (hsecond c hc).2.1) hsame

/-- Decimal digits, and hexadecimal ones. -/
def Inert (text : String) : Prop :=
  ∀ c ∈ text.toList, 0x20 ≤ c.toNat ∧ c.toNat < 0x80 ∧ c.toNat ≠ 34 ∧ c ≠ 'v'

instance (text : String) : Decidable (Inert text) := List.decidableBAll _ _

theorem Inert.plain {text : String} (hinert : Inert text) : Plain text := fun c hc =>
  ⟨(hinert c hc).1, (hinert c hc).2.1, (hinert c hc).2.2.1⟩

theorem Inert.append {first second : String} (hfirst : Inert first) (hsecond : Inert second) :
    Inert (first ++ second) := by
  intro c hc
  rw [String.toList_append, List.mem_append] at hc
  rcases hc with hc | hc
  · exact hfirst c hc
  · exact hsecond c hc

theorem Sha256.inert (hash : Sha256) : Inert hash.text := by
  have hvalid := hash.valid
  unfold isSha256 at hvalid
  rw [Bool.and_eq_true] at hvalid
  intro c hc
  have hdigit := List.all_eq_true.mp hvalid.2 c hc
  have hdigits : ∀ d ∈ "0123456789abcdef".toList,
      0x20 ≤ d.toNat ∧ d.toNat < 0x80 ∧ d.toNat ≠ 34 ∧ d ≠ 'v' :=
    @of_decide_eq_true _ (List.decidableBAll _ _) rfl
  exact hdigits c (List.contains_iff_mem.mp hdigit)

theorem inert_of_digits {digits : List Char} (hdigits : DecimalText.Digits digits) :
    Inert (String.ofList digits) := by
  intro c hc
  rw [String.toList_ofList] at hc
  obtain ⟨hlow, hhigh⟩ := DecimalText.toNat_of_isDigit (hdigits c hc)
  refine ⟨by omega, by omega, by omega, ?_⟩
  rintro rfl
  exact absurd hhigh (by decide)

theorem padded_inert (width number : ℕ) : Inert (padded width number) := by
  refine inert_of_digits ?_
  intro c hc
  rcases List.mem_append.mp hc with hzero | hdigit
  · rw [List.eq_of_mem_replicate hzero]
    rfl
  · exact (DecimalText.canonical_toDigits number).digits c hdigit

theorem isoformat_inert (time : UtcTime) : Inert time.isoformat := by
  have hfraction : Inert (if time.microsecond = 0 then "" else "." ++ padded 6 time.microsecond) := by
    split
    · decide
    · exact Inert.append (by decide) (padded_inert _ _)
  have hdash : Inert "-" := by decide
  have hcolon : Inert ":" := by decide
  have hday := ((((padded_inert 4 time.year).append hdash).append
    (padded_inert 2 time.month)).append hdash).append (padded_inert 2 time.day)
  have hminute := (((hday.append (by decide : Inert "T")).append
    (padded_inert 2 time.hour)).append hcolon).append (padded_inert 2 time.minute)
  have hsecond := (hminute.append hcolon).append (padded_inert 2 time.second)
  exact (hsecond.append hfraction).append (by decide : Inert "Z")

/-! ### The parts of a line -/

/-- A part of a line other than the key. -/
def Aside (part : List UInt8) : Prop :=
  quote ∉ part ∧ lineEnd ∉ part ∧ part ≠ ascii "event_id"

instance (part : List UInt8) : Decidable (Aside part) :=
  inferInstanceAs (Decidable (_ ∧ _ ∧ _))

theorem Inert.aside {text : String} (hinert : Inert text) : Aside (ascii text) := by
  refine ⟨quote_notMem hinert.plain, lineEnd_notMem hinert.plain, ?_⟩
  intro hsame
  have htext := ascii_inj hinert.plain (by decide) hsame
  subst htext
  exact absurd hinert (by decide)

theorem code_aside (code : Code) : Aside (ascii code.value) := by
  cases code <;> decide

theorem state_aside (state : State) : Aside (ascii state.value) := by
  cases state <;> decide

/-- The parts that a hash brings, with a quote between them. -/
def hashParts : Option Sha256 → List (List UInt8)
  | none => [ascii ":null,"]
  | some hash => [ascii ":", ascii hash.text, ascii ","]

def elapsedText : Option ℕ → String
  | none => "null"
  | some elapsed => elapsed.repr

/-- The parts of a line before the key, cut at the quotes. -/
def partsBefore (event : Event) : List (List UInt8) :=
  [ascii "\x7b", ascii "child_hash"] ++ hashParts event.childHash ++
    [ascii "code", ascii ":", ascii event.code.value, ascii ",", ascii "elapsed_ms",
      ascii (":" ++ elapsedText event.elapsedMs ++ ",")]

/-- The parts of a line after the key. -/
def partsAfter (event : Event) : List (List UInt8) :=
  hashParts event.eventId ++
    [ascii "schema_version", ascii ":1,", ascii "session_hash", ascii ":",
      ascii event.sessionHash.text, ascii ",", ascii "state", ascii ":", ascii event.state.value,
      ascii ",", ascii "timestamp", ascii ":", ascii event.occurredAt.isoformat, ascii "\x7d"]

def parts (event : Event) : List (List UInt8) :=
  partsBefore event ++ ascii "event_id" :: partsAfter event

theorem ascii_append (first second : String) :
    ascii (first ++ second) = ascii first ++ ascii second := by
  unfold ascii
  rw [String.toList_append, List.map_append]

theorem lineText_eq (event : Event) : lineText event = [quote].intercalate (parts event) := by
  have hcomma : ascii ":1," = ascii ":" ++ ascii "1" ++ ascii "," := by decide
  have hnull : ascii ":null," = ascii ":" ++ ascii "null" ++ ascii "," := by decide
  obtain ⟨occurredAt, code, state, sessionHash, childHash, elapsedMs, eventId⟩ := event
  cases childHash <;> cases eventId <;> cases elapsedMs <;>
    simp [lineText, parts, partsBefore, partsAfter, jsonMember, jsonText, jsonHash, hashParts,
      elapsedText, ascii_append, hcomma, hnull, List.intercalate_cons_cons]

theorem hashParts_aside (value : Option Sha256) : ∀ part ∈ hashParts value, Aside part := by
  cases value with
  | none =>
    unfold hashParts
    decide
  | some hash =>
    unfold hashParts
    simp only [List.forall_mem_cons]
    exact ⟨by decide, hash.inert.aside, by decide, List.forall_mem_nil _⟩

theorem elapsedText_inert (value : Option ℕ) : Inert (elapsedText value) := by
  cases value with
  | none => exact (by decide : Inert "null")
  | some elapsed => exact inert_of_digits (DecimalText.canonical_toDigits elapsed).digits

theorem partsBefore_aside (event : Event) : ∀ part ∈ partsBefore event, Aside part := by
  have helapsed : Inert (":" ++ elapsedText event.elapsedMs ++ ",") :=
    ((by decide : Inert ":").append (elapsedText_inert _)).append (by decide)
  unfold partsBefore
  simp only [List.forall_mem_append, List.forall_mem_cons]
  refine ⟨⟨⟨by decide, by decide, List.forall_mem_nil _⟩, hashParts_aside _⟩, by decide, by decide,
    code_aside _, by decide, by decide, helapsed.aside, List.forall_mem_nil _⟩

theorem partsAfter_aside (event : Event) : ∀ part ∈ partsAfter event, Aside part := by
  unfold partsAfter
  simp only [List.forall_mem_append, List.forall_mem_cons]
  refine ⟨hashParts_aside _, by decide, by decide, by decide, by decide,
    event.sessionHash.inert.aside, by decide, by decide, by decide, state_aside _, by decide,
    by decide, by decide, (isoformat_inert _).aside, by decide, List.forall_mem_nil _⟩

theorem parts_free (event : Event) : ∀ part ∈ parts event, quote ∉ part ∧ lineEnd ∉ part := by
  unfold parts
  simp only [List.forall_mem_append, List.forall_mem_cons]
  refine ⟨?_, by decide, ?_⟩
  · intro part hpart
    obtain ⟨hquote, hend, -⟩ := partsBefore_aside event part hpart
    exact ⟨hquote, hend⟩
  · intro part hpart
    obtain ⟨hquote, hend, -⟩ := partsAfter_aside event part hpart
    exact ⟨hquote, hend⟩

/-- The text of an event is one line. -/
theorem lineEnd_notMem_lineText (event : Event) : lineEnd ∉ lineText event := by
  rw [lineText_eq]
  have hfree : ∀ texts : List (List UInt8), (∀ part ∈ texts, quote ∉ part ∧ lineEnd ∉ part) →
      lineEnd ∉ [quote].intercalate texts := by
    intro texts
    induction texts with
    | nil => simp
    | cons part rest ih =>
      intro hall
      cases rest with
      | nil => simpa using (hall part List.mem_cons_self).2
      | cons other others =>
        rw [List.intercalate_cons_cons]
        simp only [List.mem_append, not_or]
        refine ⟨⟨(hall part List.mem_cons_self).2, by decide⟩, ih ?_⟩
        exact fun text htext => hall text (List.mem_cons_of_mem _ htext)
  exact hfree _ (parts_free event)

theorem splitOn_lineText (event : Event) : (lineText event).splitOn quote = parts event := by
  rw [lineText_eq]
  refine List.splitOn_intercalate quote (fun part hpart => (parts_free event part hpart).1) ?_
  unfold parts
  simp

/-! ### Mentions of an identity -/

/-- What stands between the quotes of the searched text. -/
def needleFields (eventId : Sha256) : List (List UInt8) :=
  [ascii "event_id", ascii ":", ascii eventId.text]

theorem needleOf_eq (eventId : Sha256) :
    needleOf eventId = quoted quote (needleFields eventId) := by
  simp [needleOf, needleFields, quoted, jsonText]

theorem needleFields_free (eventId : Sha256) :
    ∀ field ∈ needleFields eventId, quote ∉ field := by
  unfold needleFields
  simp only [List.forall_mem_cons]
  exact ⟨by decide, by decide, eventId.inert.aside.1, List.forall_mem_nil _⟩

theorem Sha256.ext {first second : Sha256} (hsame : ascii first.text = ascii second.text) :
    first = second := by
  obtain ⟨text, hvalid⟩ := first
  obtain ⟨other, hother⟩ := second
  obtain rfl : text = other :=
    ascii_inj (Sha256.inert ⟨text, hvalid⟩).plain (Sha256.inert ⟨other, hother⟩).plain hsame
  rfl

/-- A line mentions the identity of its event, and no other. -/
theorem needle_infix_iff (eventId : Sha256) (event : Event) :
    needleOf eventId <:+: lineText event ↔ event.eventId = some eventId := by
  constructor
  · intro hrun
    rw [needleOf_eq] at hrun
    have hfields := fields_infix (needleFields_free eventId) hrun
    rw [splitOn_lineText] at hfields
    have hafter : [ascii ":", ascii eventId.text] <+: partsAfter event :=
      tail_of_infix_once (fun hmem => (partsBefore_aside event _ hmem).2.2 rfl)
        (fun hmem => (partsAfter_aside event _ hmem).2.2 rfl) hfields
    unfold partsAfter at hafter
    cases hid : event.eventId with
    | none =>
      rw [hid] at hafter
      exact absurd (List.cons_prefix_cons.mp hafter).1 (by decide)
    | some found =>
      rw [hid] at hafter
      have htext := (List.cons_prefix_cons.mp (List.cons_prefix_cons.mp hafter).2).1
      rw [Sha256.ext htext]
  · intro hid
    have hmember : needleOf eventId = jsonMember "event_id" (jsonHash event.eventId) := by
      rw [hid]
      rfl
    unfold lineText
    rw [hmember]
    refine (infix_intercalate ?_).trans ⟨_, _, List.append_assoc _ _ _⟩
    simp

/-! ### Whole lines -/

/-- The lines of events, one after the other. -/
def encodeAll (events : List Event) : List UInt8 := (events.map encode).flatten

theorem encodeAll_append (first second : List Event) :
    encodeAll (first ++ second) = encodeAll first ++ encodeAll second := by
  unfold encodeAll
  rw [List.map_append, List.flatten_append]

theorem encodeAll_singleton (event : Event) : encodeAll [event] = encode event := by
  simp [encodeAll]

theorem completeLines_encodeAll (events : List Event) :
    completeLines (encodeAll events) = encodeAll events := by
  rcases List.eq_nil_or_concat events with rfl | ⟨before, event, rfl⟩
  · rfl
  · rw [List.concat_eq_append, encodeAll_append, encodeAll_singleton]
    unfold completeLines encode
    simp

theorem lineEnd_notMem_needleOf (eventId : Sha256) : lineEnd ∉ needleOf eventId := by
  have hkey : lineEnd ∉ ascii "event_id" := by decide
  have hcolon : lineEnd ∉ ascii ":" := by decide
  have hquote : lineEnd ≠ quote := by decide
  have htext := eventId.inert.aside.2.1
  simp [needleOf, hkey, hcolon, jsonText, hquote, htext]

/-- A file mentions exactly the identities of its events. -/
theorem contains_encodeAll (eventId : Sha256) (events : List Event) :
    contains (needleOf eventId) (encodeAll events) = true ↔
      eventId ∈ events.filterMap Event.eventId := by
  have htexts : encodeAll events = ((events.map lineText).map (· ++ [lineEnd])).flatten := by
    unfold encodeAll
    rw [List.map_map]
    rfl
  unfold contains
  rw [decide_eq_true_iff, List.mem_filterMap]
  constructor
  · intro hrun
    rw [htexts] at hrun
    obtain ⟨text, htext, hmentions⟩ :=
      infix_flatten (lineEnd_notMem_needleOf eventId) (by simp [needleOf, jsonText]) hrun
    obtain ⟨event, hevent, rfl⟩ := List.mem_map.mp htext
    exact ⟨event, hevent, (needle_infix_iff eventId event).mp hmentions⟩
  · rintro ⟨event, hevent, hid⟩
    have hline : encode event <:+: encodeAll events :=
      List.infix_of_mem_flatten (List.mem_map_of_mem hevent)
    refine ((needle_infix_iff eventId event).mpr hid).trans (List.IsInfix.trans ?_ hline)
    exact (List.prefix_append _ _).isInfix

end CodexMustWork.MonitorDiagnostics
