import DemurrageToken.Proofs.Utf8
import Mathlib.Tactic.SplitIfs

/-! Defects of byte sequences. Strict reading reports the place behind the last
whole character that well-formed bytes can begin with. What it reports there is
the longest beginning of a longer character, and the byte behind it, or the end
of the bytes, is what no well-formed bytes go on with. The shortest-form rules
of `Sequence` say what is well formed; the decoder's own table of lead bytes
appears in the proofs only. -/
namespace DemurrageToken.Utf8

/-- Whole characters in shortest form, one behind the other. -/
inductive WellFormed : Bytes → Prop where
  | nil : WellFormed []
  | cons {first rest : Bytes} {n : Nat} (sequence : Sequence first n) (more : WellFormed rest) :
      WellFormed (first ++ rest)

/-- Bytes are well formed if they encode a text without surrogates. -/
theorem wellFormed_iff {bytes : Bytes} :
    WellFormed bytes ↔ ∃ t : Text, t.SurrogateFree ∧ bytes = t.flatMap encodeCodePoint := by
  constructor
  · intro h
    induction h with
    | nil => exact ⟨[], .nil, rfl⟩
    | cons hSequence _ ih =>
        obtain ⟨t, ht, rfl⟩ := ih
        obtain ⟨hScalar, rfl⟩ := hSequence.eq_encodeCodePoint
        exact ⟨_ :: t, Text.SurrogateFree.cons_iff.mpr ⟨hScalar, ht⟩, List.flatMap_cons.symm⟩
  · rintro ⟨t, ht, rfl⟩
    induction t with
    | nil => exact .nil
    | cons c t ih =>
        obtain ⟨hc, ht⟩ := Text.SurrogateFree.cons_iff.mp ht
        rw [List.flatMap_cons]
        exact .cons (sequence_encodeCodePoint hc) (ih ht)

/-- No well-formed bytes begin so. -/
def Dead (start : Bytes) : Prop := ∀ tail, ¬WellFormed (start ++ tail)

/-- The first byte, or more, of a character of several bytes. -/
def Begins (start : Bytes) : Prop :=
  start ≠ [] ∧ ∃ tail n, 2 ≤ (start ++ tail).length ∧ Sequence (start ++ tail) n

/-- The part of some bytes that is reported at their beginning: the longest one
that begins a character of several bytes, or the first byte if no part does. -/
inductive Reported (bytes : Bytes) : Bytes → Prop where
  | longest {part : Bytes} (hPart : part <+: bytes) (hBegins : Begins part)
      (hLongest : ∀ other, other <+: bytes → Begins other → other.length ≤ part.length) :
      Reported bytes part
  | alone {b : UInt8} (hFirst : [b] <+: bytes) (hNone : ∀ other, other <+: bytes → ¬Begins other) :
      Reported bytes [b]

/-- A fault stands behind whole characters. With the byte that the reason is
about, no well-formed bytes begin as these do. -/
structure FirstDefect (bytes : Bytes) (fault : IllFormed) : Prop where
  before : WellFormed (bytes.take fault.position)
  reported : Reported (bytes.drop fault.position) fault.bytes
  start : fault.reason = .invalidStart →
    fault.bytes.length = 1 ∧ Dead (bytes.take (fault.position + 1))
  continuation : fault.reason = .invalidContinuation →
    fault.position + fault.bytes.length < bytes.length ∧
      Dead (bytes.take (fault.position + fault.bytes.length + 1))
  ending : fault.reason = .unexpectedEnd →
    fault.position + fault.bytes.length = bytes.length

/-! ### Continuation bytes -/

/-- Bytes that may follow a lead byte, with bounds on the first of them. -/
def Continues (low high : Nat) : Bytes → Prop
  | [] => True
  | b :: rest => (low ≤ b.toNat ∧ b.toNat ≤ high) ∧ Continues 0x80 0xBF rest

theorem Continues.of_append {low high : Nat} {part rest : Bytes}
    (h : Continues low high (part ++ rest)) : Continues low high part := by
  induction part generalizing low high with
  | nil => trivial
  | cons b part ih => exact ⟨h.1, ih h.2⟩

/-- Bytes that are owed can be given. -/
theorem Continues.complete {low high owed : Nat} {part : Bytes} (h : Continues low high part)
    (hBounds : low ≤ high ∧ high < 0x100) (hOwed : part.length ≤ owed) :
    ∃ tail, (part ++ tail).length = owed ∧ Continues low high (part ++ tail) := by
  induction owed generalizing low high part with
  | zero =>
      obtain rfl := List.length_eq_zero_iff.mp (Nat.le_zero.mp hOwed)
      exact ⟨[], rfl, trivial⟩
  | succ owed ih =>
      cases part with
      | nil =>
          obtain ⟨tail, hLength, hTail⟩ :=
            @ih 0x80 0xBF [] trivial (by decide) (Nat.zero_le _)
          have hLow : (UInt8.ofNat low).toNat = low := toNat_ofNat (by omega)
          refine ⟨UInt8.ofNat low :: tail, congrArg (· + 1) hLength, ?_, hTail⟩
          rw [hLow]
          exact ⟨Nat.le_refl _, hBounds.1⟩
      | cons b part =>
          obtain ⟨tail, hLength, hTail⟩ := ih h.2 (by decide) (Nat.le_of_succ_le_succ hOwed)
          exact ⟨tail, congrArg (· + 1) hLength, h.1, hTail⟩

/-- A character that is read took as many continuation bytes as it was owed. -/
theorem continues_of_follow {taken rest : Bytes} {bits low high owed w : Nat} {c : CodePoint}
    (h : follow taken bits low high owed rest = .character c w) :
    ∃ part more, rest = part ++ more ∧ part.length = owed ∧ Continues low high part ∧
      w = taken.length + owed := by
  induction owed generalizing taken bits low high rest with
  | zero => exact ⟨[], rest, rfl, rfl, trivial, (follow_zero_eq_character h).2⟩
  | succ owed ih =>
      obtain ⟨b, more, rfl, hb, h⟩ := follow_eq_character h
      obtain ⟨part, more, rfl, rfl, hPart, rfl⟩ := ih h
      refine ⟨b :: part, more, rfl, rfl, ⟨hb, hPart⟩, ?_⟩
      rw [List.length_cons]
      omega

theorem follow_of_continues {low high : Nat} {part : Bytes} (h : Continues low high part)
    (taken rest : Bytes) (bits : Nat) :
    ∃ c, follow taken bits low high part.length (part ++ rest) =
      .character c (taken.length + part.length) := by
  induction part generalizing taken bits low high with
  | nil => exact ⟨_, follow_zero ..⟩
  | cons b part ih =>
      obtain ⟨c, hFollow⟩ := ih h.2 (b :: taken) (bits * 0x40 + (b.toNat - 0x80))
      refine ⟨c, ?_⟩
      rw [List.cons_append, List.length_cons, follow_cons h.1, hFollow, List.length_cons,
        Nat.add_assoc, Nat.add_comm 1]

/-- Reading what is owed breaks off at the end of the bytes, or at one that does
not continue what has been taken. -/
theorem follow_eq_illFormed {taken rest bytes : Bytes} {bits low high owed : Nat} {reason : Reason}
    (h : follow taken bits low high owed rest = .illFormed reason bytes) :
    ∃ part after, rest = part ++ after ∧ bytes = taken.reverse ++ part ∧ part.length < owed ∧
      Continues low high part ∧
      (reason = .unexpectedEnd ∧ after = [] ∨
        reason = .invalidContinuation ∧
          ∃ b more, after = b :: more ∧ ¬Continues low high (part ++ [b])) := by
  induction owed generalizing taken bits low high rest with
  | zero =>
      rw [follow_zero] at h
      cases h
  | succ owed ih =>
      cases rest with
      | nil =>
          cases h
          exact ⟨[], [], rfl, (List.append_nil _).symm, Nat.succ_pos _, trivial, .inl ⟨rfl, rfl⟩⟩
      | cons b more =>
          by_cases hb : low ≤ b.toNat ∧ b.toNat ≤ high
          · rw [follow_cons hb] at h
            obtain ⟨part, after, rfl, rfl, hLength, hPart, hAfter⟩ := ih h
            refine ⟨b :: part, after, rfl, by simp, Nat.succ_lt_succ hLength, ⟨hb, hPart⟩, ?_⟩
            refine hAfter.imp id ?_
            rintro ⟨hReason, c, more, rfl, hBreak⟩
            exact ⟨hReason, c, more, rfl, fun hContinues => hBreak hContinues.2⟩
          · rw [follow, if_neg hb] at h
            cases h
            exact ⟨[], b :: more, rfl, (List.append_nil _).symm, Nat.succ_pos _, trivial,
              .inr ⟨rfl, b, more, rfl, fun hContinues => hb hContinues.1⟩⟩

/-- Whatever stands behind it, a byte that does not continue is where reading
breaks off. -/
theorem follow_of_not_continues {low high owed : Nat} {part : Bytes} {b : UInt8}
    (h : Continues low high part) (hBreak : ¬Continues low high (part ++ [b]))
    (hOwed : part.length < owed) (taken more : Bytes) (bits : Nat) :
    follow taken bits low high owed (part ++ b :: more) =
      .illFormed .invalidContinuation (taken.reverse ++ part) := by
  induction owed generalizing taken bits low high part with
  | zero => cases hOwed
  | succ owed ih =>
      cases part with
      | nil =>
          rw [List.nil_append, follow, if_neg fun hb => hBreak ⟨hb, trivial⟩, List.append_nil]
      | cons a part =>
          rw [List.cons_append, follow_cons h.1,
            ih h.2 (fun hContinues => hBreak ⟨h.1, hContinues⟩) (Nat.lt_of_succ_lt_succ hOwed)]
          simp

/-! ### Lead bytes -/

theorem lead?_bounds {b : UInt8} {lead : Lead} (h : lead? false b = some lead) :
    lead.low ≤ lead.high ∧ lead.high < 0x100 := by
  simp only [lead?, Bool.not_false, Bool.and_true, decide_eq_true_eq] at h
  split_ifs at h <;> cases h <;> simp <;> omega

/-- A lead byte with some of the bytes that it owes begins a character, and no
other bytes do. -/
theorem begins_cons_iff {b : UInt8} {part : Bytes} :
    Begins (b :: part) ↔ ∃ lead, lead? false b = some lead ∧ 0 < lead.owed ∧
      part.length ≤ lead.owed ∧ Continues lead.low lead.high part := by
  constructor
  · rintro ⟨-, tail, n, hLength, hSequence⟩
    rw [List.cons_append] at hSequence
    have hSegment := hSequence.segment_eq []
    rw [segment] at hSegment
    cases hLead : lead? false b with
    | none =>
        rw [hLead] at hSegment
        cases hSegment
    | some lead =>
        simp only [hLead, List.append_nil] at hSegment
        obtain ⟨all, more, hAll, hOwed, hContinues, hWidth⟩ := continues_of_follow hSegment
        have hMore : more = [] := by
          rw [← List.length_eq_zero_iff]
          have hLengths := congrArg List.length hAll
          simp only [List.length_append] at hLengths hWidth
          rw [List.length_singleton] at hWidth
          omega
        rw [hMore, List.append_nil] at hAll
        rw [← hAll] at hOwed hContinues
        simp only [List.cons_append, List.length_cons, List.length_append] at hLength hOwed
        exact ⟨lead, rfl, by omega, by omega, hContinues.of_append⟩
  · rintro ⟨lead, hLead, hOwed, hLength, hPart⟩
    obtain ⟨tail, hTail, hContinues⟩ := hPart.complete (lead?_bounds hLead) hLength
    obtain ⟨c, hFollow⟩ := follow_of_continues hContinues [b] [] lead.bits
    have hSegment : segment false b (part ++ tail) = .character c (lead.owed + 1) := by
      rw [List.append_nil, hTail, List.length_singleton, Nat.add_comm 1] at hFollow
      simp only [segment, hLead, hFollow]
    obtain ⟨all, more, n, hAll, -, hWidth, hSequence⟩ := segment_eq_character hSegment
    have hMore : more = [] := by
      rw [← List.length_eq_zero_iff]
      have hLengths := congrArg List.length hAll
      simp only [List.length_append] at hLengths hTail
      omega
    rw [hMore, List.append_nil] at hAll
    rw [← hAll] at hSequence
    exact ⟨List.cons_ne_nil _ _, tail, n, by simp only [List.cons_append, List.length_cons]; omega,
      hSequence⟩

/-! ### The first ill-formed segment -/

/-- Whole characters are read one by one, and what is behind them is read as it
would be alone. -/
theorem assemble_append {front : Bytes} (h : WellFormed front) :
    ∃ t, ∀ position rest, assemble position (segmentsAfter false 0 (front ++ rest)) =
      (assemble (position + front.length) (segmentsAfter false 0 rest)).map (t ++ ·) := by
  induction h with
  | nil =>
      refine ⟨[], fun position rest => ?_⟩
      cases hRest : assemble position (segmentsAfter false 0 rest) with
      | ok u => simp [hRest, Except.map]
      | error fault => simp [hRest, Except.map]
  | @cons first more n hSequence _ ih =>
      obtain ⟨t, ht⟩ := ih
      cases first with
      | nil => cases hSequence
      | cons b tail =>
          refine ⟨CodePoint.ofNat n :: t, fun position rest => ?_⟩
          rw [List.append_assoc, List.cons_append, segmentsAfter, hSequence.segment_eq]
          have hLength : position + (b :: tail ++ more).length =
              position + (tail.length + 1) + more.length := by
            simp only [List.cons_append, List.length_cons, List.length_append]
            omega
          simp only [Segment.width, Nat.add_sub_cancel, segmentsAfter_append, assemble, ht, hLength]
          generalize assemble _ _ = read
          cases read <;> rfl

/-- Bytes that are not well-formed have a first ill-formed segment. -/
theorem exists_illFormed {bytes : Bytes} (h : ¬WellFormed bytes) :
    ∃ front b rest reason part, WellFormed front ∧ bytes = front ++ b :: rest ∧
      segment false b rest = .illFormed reason part := by
  generalize hLength : bytes.length = length
  induction length using Nat.strongRecOn generalizing bytes with
  | _ length ih =>
      cases bytes with
      | nil => exact absurd .nil h
      | cons b rest =>
          cases hSegment : segment false b rest with
          | illFormed reason part => exact ⟨[], b, rest, reason, part, .nil, rfl, hSegment⟩
          | character c w =>
              obtain ⟨tail, more, n, rfl, -, -, hSequence⟩ := segment_eq_character hSegment
              have hMore : ¬WellFormed more := fun hMore => h (.cons hSequence hMore)
              simp only [List.length_cons, List.length_append] at hLength
              obtain ⟨front, b', rest', reason, part, hFront, rfl, hIll⟩ :=
                ih more.length (by omega) hMore rfl
              exact ⟨b :: tail ++ front, b', rest', reason, part, .cons hSequence hFront,
                by simp, hIll⟩

theorem decode_of_wellFormed {bytes : Bytes} (h : WellFormed bytes) :
    ∃ t, decode bytes = .ok t := by
  obtain ⟨t, ht, rfl⟩ := wellFormed_iff.mp h
  exact ⟨t, decode_eq_ok_iff.mpr ⟨ht, rfl⟩⟩

/-- The first segment that is ill-formed is reported, at its place. -/
theorem decode_of_illFormed {front rest part : Bytes} {b : UInt8} {reason : Reason}
    (hFront : WellFormed front) (h : segment false b rest = .illFormed reason part) :
    decode (front ++ b :: rest) = .error ⟨front.length, part, reason⟩ := by
  obtain ⟨t, ht⟩ := assemble_append hFront
  rw [decode, segments, ht, segmentsAfter, h]
  simp [assemble, Except.map]

/-- How a first segment is ill-formed: its first byte leads nothing, or the bytes
that the lead byte owes break off. -/
inductive Breaks (b : UInt8) : Bytes → Reason → Bytes → Prop where
  | start {rest : Bytes} (hLead : lead? false b = none) : Breaks b rest .invalidStart [b]
  | continuation {lead : Lead} {part more : Bytes} {c : UInt8} (hLead : lead? false b = some lead)
      (hOwed : part.length < lead.owed) (hPart : Continues lead.low lead.high part)
      (hBreak : ¬Continues lead.low lead.high (part ++ [c])) :
      Breaks b (part ++ c :: more) .invalidContinuation (b :: part)
  | ending {lead : Lead} {part : Bytes} (hLead : lead? false b = some lead)
      (hOwed : part.length < lead.owed) (hPart : Continues lead.low lead.high part) :
      Breaks b part .unexpectedEnd (b :: part)

/-- A segment that is ill-formed breaks off in one of the ways that there are. -/
theorem breaks_of_segment {b : UInt8} {rest part : Bytes} {reason : Reason}
    (h : segment false b rest = .illFormed reason part) : Breaks b rest reason part := by
  rw [segment] at h
  cases hLead : lead? false b with
  | none =>
      rw [hLead] at h
      cases h
      exact .start hLead
  | some lead =>
      rw [hLead] at h
      obtain ⟨part, after, rfl, rfl, hOwed, hPart, hAfter⟩ := follow_eq_illFormed h
      rcases hAfter with ⟨rfl, rfl⟩ | ⟨rfl, c, more, rfl, hBreak⟩
      · rw [List.append_nil]
        exact .ending hLead hOwed hPart
      · exact .continuation hLead hOwed hPart hBreak

/-- What is reported of a break is as much as could have begun a character. -/
theorem Breaks.reported {b : UInt8} {rest part : Bytes} {reason : Reason}
    (h : Breaks b rest reason part) : Reported (b :: rest) part := by
  cases h with
  | start hLead =>
      refine .alone ⟨rest, rfl⟩ ?_
      rintro (_ | ⟨a, other⟩) ⟨after, hAfter⟩ hBegins
      · exact hBegins.1 rfl
      · cases hAfter
        obtain ⟨lead, hSome, -⟩ := begins_cons_iff.mp hBegins
        rw [hLead] at hSome
        cases hSome
  | @continuation lead part more c hLead hOwed hPart hBreak =>
      refine .longest ⟨c :: more, rfl⟩
        (begins_cons_iff.mpr ⟨lead, hLead, Nat.zero_lt_of_lt hOwed, Nat.le_of_lt hOwed, hPart⟩) ?_
      rintro (_ | ⟨a, other⟩) ⟨after, hAfter⟩ hBegins
      · exact Nat.zero_le _
      · obtain ⟨rfl, hOther⟩ := List.cons.inj hAfter
        obtain ⟨lead', hLead', -, -, hContinues⟩ := begins_cons_iff.mp hBegins
        obtain rfl : lead' = lead := Option.some.inj (hLead'.symm.trans hLead)
        refine Nat.le_of_not_lt fun hLonger => ?_
        have hPrefix : part ++ [c] <+: other :=
          List.prefix_of_prefix_length_le ⟨more, by simp⟩ ⟨after, hOther⟩
            (by simp only [List.length_cons] at hLonger; simp; omega)
        obtain ⟨tail, rfl⟩ := hPrefix
        exact hBreak hContinues.of_append
  | ending hLead hOwed hPart =>
      refine .longest (List.prefix_refl _)
        (begins_cons_iff.mpr ⟨_, hLead, Nat.zero_lt_of_lt hOwed, Nat.le_of_lt hOwed, hPart⟩) ?_
      exact fun other hOther _ => hOther.length_le

/-- A front that ends in an ill-formed segment, whatever follows, is dead. -/
theorem dead_of_illFormed {front start : Bytes} {b : UInt8} (hFront : WellFormed front)
    (h : ∀ tail, ∃ reason part, segment false b (start ++ tail) = .illFormed reason part) :
    Dead (front ++ b :: start) := by
  intro tail hWellFormed
  obtain ⟨t, ht⟩ := decode_of_wellFormed hWellFormed
  obtain ⟨reason, part, hSegment⟩ := h tail
  rw [List.append_assoc, List.cons_append, decode_of_illFormed hFront hSegment] at ht
  cases ht

/-- A break behind well-formed bytes is their first defect. -/
theorem Breaks.firstDefect {front rest part : Bytes} {b : UInt8} {reason : Reason}
    (hFront : WellFormed front) (h : Breaks b rest reason part) :
    FirstDefect (front ++ b :: rest) ⟨front.length, part, reason⟩ := by
  have hBefore : WellFormed ((front ++ b :: rest).take front.length) := by rwa [List.take_left]
  have hReported : Reported ((front ++ b :: rest).drop front.length) part := by
    rw [List.drop_left]
    exact h.reported
  cases h with
  | start hLead =>
      refine ⟨hBefore, hReported, fun _ => ⟨rfl, ?_⟩, by rintro ⟨⟩, by rintro ⟨⟩⟩
      rw [List.take_length_add_append]
      refine dead_of_illFormed hFront fun tail => ⟨.invalidStart, [b], ?_⟩
      simp only [segment, hLead]
  | @continuation lead part more c hLead hOwed hPart hBreak =>
      refine ⟨hBefore, hReported, by rintro ⟨⟩, fun _ => ⟨?_, ?_⟩, by rintro ⟨⟩⟩
      · simp only [List.length_append, List.length_cons]
        omega
      · have hTake : (b :: (part ++ c :: more)).take (part.length + 1 + 1) =
            b :: (part ++ [c]) := by
          rw [List.take_succ_cons, List.take_length_add_append]
          rfl
        rw [List.length_cons, Nat.add_assoc, List.take_length_add_append, hTake]
        refine dead_of_illFormed hFront fun tail => ⟨.invalidContinuation, b :: part, ?_⟩
        simp only [segment, hLead]
        rw [List.append_assoc]
        exact follow_of_not_continues hPart hBreak hOwed [b] tail lead.bits
  | ending hLead hOwed hPart =>
      exact ⟨hBefore, hReported, by rintro ⟨⟩, by rintro ⟨⟩, fun _ => (List.length_append ..).symm⟩

theorem decode_of_not_wellFormed {bytes : Bytes} (h : ¬WellFormed bytes) :
    ∃ fault, decode bytes = .error fault ∧ FirstDefect bytes fault := by
  obtain ⟨front, b, rest, reason, part, hFront, rfl, hSegment⟩ := exists_illFormed h
  exact ⟨_, decode_of_illFormed hFront hSegment, (breaks_of_segment hSegment).firstDefect hFront⟩

end DemurrageToken.Utf8
