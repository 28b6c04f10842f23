import Telemetry.Fixture
import Telemetry.Proofs.Ingest.Records
import Telemetry.Proofs.Metric.Series
import Telemetry.Proofs.Text.Hex
import Telemetry.Proofs.Text.Integer

/-! What the content ids of records tell apart. The parts of an id can be read off its text if the separator occurs in
one of them at most, and then records with one id agree in all parts, unless their texts are a collision of the
digest. -/
namespace Telemetry

/-- Two different messages with one digest. -/
def Digest.Collide (x y : List UInt8) : Prop := x ≠ y ∧ sha256 x = sha256 y

namespace Identity

section Parts

/-- A part without the separator. -/
def IsPlain (part : String) : Prop := '|' ∉ part.toList

instance : DecidablePred IsPlain := fun part => inferInstanceAs (Decidable ('|' ∉ part.toList))

/-- No part but the one at a position contains the separator. -/
def IsPlainBut (i : Nat) (parts : List String) : Prop := ∀ part ∈ parts.eraseIdx i, IsPlain part

/-- What stands between the separators of a text. -/
def pieces (text : String) : List (List Char) := text.toList.splitOn '|'

theorem pieces_injective : Function.Injective pieces := by
  intro s t h
  have hjoin := congrArg (List.intercalate ['|']) h
  rw [pieces, pieces, List.intercalate_splitOn, List.intercalate_splitOn] at hjoin
  exact String.toList_injective hjoin

theorem IsPlain.pieces_eq {part : String} (h : IsPlain part) : pieces part = [part.toList] :=
  List.splitOn_eq_singleton h

theorem flatMap_pieces {parts : List String} (h : ∀ part ∈ parts, IsPlain part) :
    parts.flatMap pieces = parts.map String.toList := by
  induction parts with
  | nil => rfl
  | cons part parts ih =>
    rw [List.flatMap_cons, (h part List.mem_cons_self).pieces_eq, List.map_cons,
      ih fun p hp => h p (List.mem_cons_of_mem _ hp)]
    rfl

/-- The pieces of a text are those of its parts. -/
theorem pieces_contentText {parts : List String} (h : parts ≠ []) :
    pieces (contentText parts) = parts.flatMap pieces := by
  induction parts with
  | nil => exact absurd rfl h
  | cons part parts ih =>
    cases parts with
    | nil => rw [contentText, String.intercalate_singleton, List.flatMap_singleton]
    | cons next parts =>
      have hbar : ("|" : String).toList = ['|'] := rfl
      rw [List.flatMap_cons, ← ih (List.cons_ne_nil _ _), contentText, String.intercalate_cons_cons, pieces,
        String.toList_append, String.toList_append, hbar, List.append_assoc, List.singleton_append,
        List.splitOn_append_cons_self]
      rfl

/-- The plain parts before the open one are the first pieces, and those after it are the last. -/
theorem eq_of_flatMap_pieces {i : Nat} {a b : List String} (hlength : a.length = b.length) (ha : IsPlainBut i a)
    (hb : IsPlainBut i b) (h : a.flatMap pieces = b.flatMap pieces) : a = b := by
  induction a generalizing b i with
  | nil => exact (List.length_eq_zero_iff.1 hlength.symm).symm
  | cons x a ih =>
    cases b with
    | nil => cases hlength
    | cons y b =>
      have htail : a.length = b.length := Nat.succ.inj hlength
      rw [List.flatMap_cons, List.flatMap_cons] at h
      cases i with
      | zero =>
        -- both lists have as many parts after the open one, so its own pieces are what is in front of those
        have hplain : a.flatMap pieces = a.map String.toList := flatMap_pieces ha
        have hplain' : b.flatMap pieces = b.map String.toList := flatMap_pieces hb
        rw [hplain, hplain'] at h
        obtain ⟨hfirst, hrest⟩ := List.append_inj' h (by rw [List.length_map, List.length_map, htail])
        rw [pieces_injective hfirst, List.map_injective_iff.2 (fun _ _ => String.toList_injective) hrest]
      | succ i =>
        have hx : IsPlain x := ha x List.mem_cons_self
        have hy : IsPlain y := hb y List.mem_cons_self
        rw [hx.pieces_eq, hy.pieces_eq] at h
        obtain ⟨hfirst, hrest⟩ := List.cons.inj h
        rw [String.toList_injective hfirst, ih htail (fun p hp => ha p (List.mem_cons_of_mem _ hp))
          (fun p hp => hb p (List.mem_cons_of_mem _ hp)) hrest]

theorem contentText_injective {i : Nat} {a b : List String} (hlength : a.length = b.length) (ha : IsPlainBut i a)
    (hb : IsPlainBut i b) (h : contentText a = contentText b) : a = b := by
  cases a with
  | nil => exact (List.length_eq_zero_iff.1 hlength.symm).symm
  | cons x a =>
    have hne : b ≠ [] := List.ne_nil_of_length_eq_add_one hlength.symm
    refine eq_of_flatMap_pieces hlength ha hb ?_
    rw [← pieces_contentText (List.cons_ne_nil x a), ← pieces_contentText hne, h]

-- With separators in different positions two lists may have one text.
example : contentText ["a|b", "c"] = contentText ["a", "b|c"] := by decide +kernel

end Parts

section Digests

variable {a b : List String}

/-- The bytes that an id is the digest of. -/
def message (parts : List String) : List UInt8 := (contentText parts).toUTF8.toList

private theorem toList_loop_eq (bytes : ByteArray) (i : Nat) (read : List UInt8) :
    ByteArray.toList.loop bytes i read = read.reverse ++ bytes.data.toList.drop i := by
  fun_induction ByteArray.toList.loop bytes i read with
  | case1 i read h ih =>
    have hi : i < bytes.data.toList.length := by simpa using h
    rw [ih, List.drop_eq_getElem_cons hi]
    simp [ByteArray.get!, h]
  | case2 i read h =>
    rw [List.drop_eq_nil_of_le (by simpa using Nat.le_of_not_lt h), List.append_nil]

theorem toList_eq_data (bytes : ByteArray) : bytes.toList = bytes.data.toList := by
  rw [ByteArray.toList, toList_loop_eq]
  rfl

theorem message_eq_iff : message a = message b ↔ contentText a = contentText b := by
  constructor
  · intro h
    rw [message, message, toList_eq_data, toList_eq_data, Array.toList_inj] at h
    exact String.toByteArray_inj.1 (ByteArray.ext h)
  · intro h
    rw [message, message, h]

/-- Two ids are the same if their texts are, or by a collision. -/
theorem contentId_eq_iff :
    contentId a = contentId b ↔ contentText a = contentText b ∨ Digest.Collide (message a) (message b) := by
  have hdigest : contentId a = contentId b ↔ Digest.sha256 (message a) = Digest.sha256 (message b) :=
    Text.hex_injective.eq_iff
  rw [hdigest, ← message_eq_iff]
  constructor
  · intro h
    by_cases hmessage : message a = message b
    · exact .inl hmessage
    · exact .inr ⟨hmessage, h⟩
  · rintro (h | h)
    · rw [h]
    · exact h.2

theorem contentId_eq_iff_of_isPlainBut {i n : Nat} (ha : IsPlainBut i a) (hb : IsPlainBut i b) (hn : a.length = n)
    (hn' : b.length = n) : contentId a = contentId b ↔ a = b ∨ Digest.Collide (message a) (message b) := by
  have htext : contentText a = contentText b ↔ a = b :=
    ⟨contentText_injective (hn.trans hn'.symm) ha hb, fun h => congrArg contentText h⟩
  rw [contentId_eq_iff, htext]

end Digests

section Plain

theorem isPlain_toString (n : Int) : IsPlain (toString n) := by
  intro h
  rw [Text.toList_toString_int, List.mem_append] at h
  obtain h | h := h
  · split at h
    · exact absurd (List.mem_singleton.1 h) (by decide)
    · cases h
  · exact absurd (Text.isDigit_of_mem_toDigits h) (by decide)

theorem isPlain_hexId (bytes : List UInt8) : IsPlain (hexId bytes) := by
  intro h
  unfold hexId at h
  split at h
  · cases h
  · obtain ⟨n, hn, hbar⟩ := Text.exists_hexDigit h
    revert n
    decide

theorem isPlain_name (kind : MetricKind) : IsPlain kind.name := by
  cases kind <;> decide +kernel

theorem isPlain_of_mem_three {x y z : String} (hx : IsPlain x) (hy : IsPlain y) (hz : IsPlain z) :
    ∀ part ∈ [x, y, z], IsPlain part := by
  intro part hpart
  obtain rfl | hpart := List.mem_cons.1 hpart
  · exact hx
  obtain rfl | hpart := List.mem_cons.1 hpart
  · exact hy
  obtain rfl := List.mem_singleton.1 hpart
  exact hz

end Plain

end Identity

section Records

open Identity

/-- The parts of a span's id. -/
def Span.identity (s : Span) : List String := [s.traceID, s.spanID, toString s.startTime.toInt]

/-- The parts of a log's id. -/
def Log.identity (l : Log) : List String :=
  [toString l.effectiveTimestamp.toInt, l.resource.serviceName, l.bodyText, l.eventName]

/-- The parts of a metric's id. -/
def Metric.identity (m : Metric) : List String :=
  [m.name, m.resource.serviceName, m.kind.name, toString m.received.toInt]

theorem Span.id_eq (s : Span) : s.id = contentId s.identity := rfl

theorem Log.id_eq (l : Log) : l.id = contentId l.identity := rfl

theorem Metric.id_eq (m : Metric) : m.id = contentId m.identity := rfl

theorem Span.isPlainBut_of_mem {resources : List (Otlp.ResourceItems Otlp.SpanMessage)} {s : Span}
    (h : s ∈ (Otlp.spans resources).value) : IsPlainBut 3 s.identity := by
  obtain ⟨r, -, scope, m, rfl⟩ := Otlp.exists_of_mem_eachItem h
  exact isPlain_of_mem_three (isPlain_hexId m.traceID) (isPlain_hexId m.spanID) (isPlain_toString _)

theorem Log.isPlainBut {l : Log} (hservice : IsPlain l.resource.serviceName) (hevent : IsPlain l.eventName) :
    IsPlainBut 2 l.identity :=
  isPlain_of_mem_three (isPlain_toString _) hservice hevent

theorem Metric.isPlainBut {m : Metric} (hservice : IsPlain m.resource.serviceName) : IsPlainBut 0 m.identity :=
  isPlain_of_mem_three hservice (isPlain_name m.kind) (isPlain_toString _)

theorem toString_toInt_inj {t u : Int64} : toString t.toInt = toString u.toInt ↔ t = u :=
  Int.repr_inj.trans Int64.toInt_inj

theorem Span.identity_eq_iff {s t : Span} :
    s.identity = t.identity ↔ s.traceID = t.traceID ∧ s.spanID = t.spanID ∧ s.startTime = t.startTime := by
  simp only [identity, List.cons.injEq, toString_toInt_inj, and_true]

theorem Log.identity_eq_iff {l m : Log} :
    l.identity = m.identity ↔ l.effectiveTimestamp = m.effectiveTimestamp ∧
      l.resource.serviceName = m.resource.serviceName ∧ l.bodyText = m.bodyText ∧ l.eventName = m.eventName := by
  simp only [identity, List.cons.injEq, toString_toInt_inj, and_true]

theorem Metric.identity_eq_iff {m n : Metric} :
    m.identity = n.identity ↔ m.name = n.name ∧ m.resource.serviceName = n.resource.serviceName ∧
      m.kind = n.kind ∧ m.received = n.received := by
  simp only [identity, List.cons.injEq, toString_toInt_inj, MetricKind.name_injective.eq_iff, and_true]

/-- The text of an id determines its parts if the separator is in one of them at most, the same one for both texts.
Hence two records have one id only if they agree in what it is made of, or the two messages are a collision of the
digest: any spans that are read from requests, any logs whose service and event have names without the separator, and
any metrics whose service has. -/
theorem contentId_separates :
    (∀ i a b, a.length = b.length → IsPlainBut i a → IsPlainBut i b → contentText a = contentText b → a = b) ∧
      (∀ resources others, ∀ s ∈ (Otlp.spans resources).value, ∀ t ∈ (Otlp.spans others).value,
        (s.id = t.id ↔ (s.traceID = t.traceID ∧ s.spanID = t.spanID ∧ s.startTime = t.startTime) ∨
          Digest.Collide (message s.identity) (message t.identity))) ∧
      (∀ l m : Log, IsPlain l.resource.serviceName → IsPlain l.eventName → IsPlain m.resource.serviceName →
        IsPlain m.eventName →
        (l.id = m.id ↔ (l.effectiveTimestamp = m.effectiveTimestamp ∧
          l.resource.serviceName = m.resource.serviceName ∧ l.bodyText = m.bodyText ∧ l.eventName = m.eventName) ∨
          Digest.Collide (message l.identity) (message m.identity))) ∧
      ∀ m n : Metric, IsPlain m.resource.serviceName → IsPlain n.resource.serviceName →
        (m.id = n.id ↔ (m.name = n.name ∧ m.resource.serviceName = n.resource.serviceName ∧ m.kind = n.kind ∧
          m.received = n.received) ∨ Digest.Collide (message m.identity) (message n.identity)) := by
  refine ⟨fun i a b => contentText_injective, ?_, ?_, ?_⟩
  · intro resources others s hs t ht
    rw [Span.id_eq, Span.id_eq, ← Span.identity_eq_iff]
    exact contentId_eq_iff_of_isPlainBut (n := 3) (Span.isPlainBut_of_mem hs) (Span.isPlainBut_of_mem ht) rfl rfl
  · intro l m hl hl' hm hm'
    rw [Log.id_eq, Log.id_eq, ← Log.identity_eq_iff]
    exact contentId_eq_iff_of_isPlainBut (n := 4) (Log.isPlainBut hl hl') (Log.isPlainBut hm hm') rfl rfl
  · intro m n hm hn
    rw [Metric.id_eq, Metric.id_eq, ← Metric.identity_eq_iff]
    exact contentId_eq_iff_of_isPlainBut (n := 4) (Metric.isPlainBut hm) (Metric.isPlainBut hn) rfl rfl

/-- Two bodies with the separator in them. -/
theorem contentId_separates_bodies :
    (Fixture.log "t" "s" Fixture.base "a|b").id = (Fixture.log "t" "s" Fixture.base "a|c").id →
      Digest.Collide (message (Fixture.log "t" "s" Fixture.base "a|b").identity)
        (message (Fixture.log "t" "s" Fixture.base "a|c").identity) := by
  have hservice : IsPlain (Fixture.resource "api").serviceName := by decide +kernel
  have hevent : IsPlain "" := by decide +kernel
  intro h
  obtain ⟨-, -, hbody, -⟩ | hcollide :=
    (contentId_separates.2.2.1 (Fixture.log "t" "s" Fixture.base "a|b") (Fixture.log "t" "s" Fixture.base "a|c")
      hservice hevent hservice hevent).1 h
  · exact absurd hbody (by decide +kernel)
  · exact hcollide

end Records
end Telemetry
