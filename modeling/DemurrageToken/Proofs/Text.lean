import DemurrageToken.Text.Basic
import Mathlib.Data.List.TakeDrop
import Mathlib.Data.List.TakeWhile

/-! Facts about cutting texts and joining them. -/
namespace DemurrageToken

/-- A capital of ASCII becomes small. -/
def CodePoint.lowered : CodePoint → CodePoint
  | .scalar c => .scalar c.toLower
  | .surrogate i => .surrogate i

namespace Text

theorem lowerAscii_eq_map (t : Text) : t.lowerAscii = t.map CodePoint.lowered := rfl

theorem lowerAscii_eq_self_iff {t : Text} : t.lowerAscii = t ↔ ∀ c ∈ t, c.lowered = c := by
  have hIff : t.map CodePoint.lowered = t.map id ↔ ∀ c ∈ t, c.lowered = id c := List.map_inj_left
  rwa [List.map_id] at hIff

/-- A start is dropped exactly if the text has it. -/
theorem dropStart?_eq_some_iff {start t rest : Text} :
    dropStart? start t = some rest ↔ t = start ++ rest := by
  induction start generalizing t with
  | nil => simp [dropStart?]
  | cons p ps ih =>
      cases t with
      | nil => simp [dropStart?]
      | cons c cs =>
          by_cases h : p = c
          · simp [dropStart?, h, ih]
          · simp [dropStart?, h, Ne.symm h]

/-- A span is the longest front whose code points have a property. -/
theorem span_eq_iff {p : CodePoint → Bool} {t front back : Text} :
    t.span p = (front, back) ↔ t = front ++ back ∧ (∀ c ∈ front, p c = true) ∧
      ∀ c, back.head? = some c → p c = false := by
  rw [List.span_eq_takeWhile_dropWhile, Prod.mk.injEq]
  constructor
  · rintro ⟨rfl, rfl⟩
    refine ⟨List.takeWhile_append_dropWhile.symm, fun c hc => List.mem_takeWhile_imp hc, ?_⟩
    intro c hc
    have hHead := List.head?_dropWhile_not p t
    rwa [hc] at hHead
  · rintro ⟨rfl, hFront, hBack⟩
    rw [List.takeWhile_append_of_pos hFront, List.dropWhile_append_of_pos hFront]
    cases back with
    | nil => simp
    | cons c back => simp [hBack c rfl]

theorem dropWhile_eq_self {p : CodePoint → Bool} {t : Text}
    (h : ∀ c, t.head? = some c → p c = false) : t.dropWhile p = t := by
  cases t with
  | nil => rfl
  | cons c t => rw [List.dropWhile_cons_of_neg (by simp [h c rfl])]

/-- Nothing is dropped behind a text that ends otherwise. -/
theorem dropEndWhile_eq_self {p : CodePoint → Bool} {t : Text}
    (h : ∀ c, t.getLast? = some c → p c = false) : dropEndWhile p t = t := by
  rw [dropEndWhile, dropWhile_eq_self, List.reverse_reverse]
  intro c hc
  rw [List.head?_reverse] at hc
  exact h c hc

/-- Joining is the library's, so that its laws apply. -/
theorem join_eq_intercalate (separator : Text) (ts : List Text) :
    join separator ts = separator.intercalate ts := by
  fun_induction join separator ts with
  | case1 => rfl
  | case2 t => simp [List.intercalate]
  | case3 t u rest ih =>
      rw [ih]
      simp [List.intercalate, List.intersperse_cons_cons]

/-- What a text is split into gives the text back when it is joined. -/
theorem join_splitOn (mark : CodePoint) (t : Text) : join [mark] (t.splitOn mark) = t := by
  rw [join_eq_intercalate, List.intercalate_splitOn]

theorem splitOn_join {mark : CodePoint} {ts : List Text} (hTexts : ts ≠ [])
    (h : ∀ t ∈ ts, mark ∉ t) : (join [mark] ts).splitOn mark = ts := by
  rw [join_eq_intercalate, List.splitOn_intercalate mark h hTexts]

/-- Joining goes by parts, if there are any on either side. -/
theorem join_append (separator : Text) {ts us : List Text} (hTs : ts ≠ []) (hUs : us ≠ []) :
    join separator (ts ++ us) = join separator ts ++ separator ++ join separator us := by
  fun_induction join separator ts with
  | case1 => exact absurd rfl hTs
  | case2 t =>
      obtain ⟨u, us, rfl⟩ := List.exists_cons_of_ne_nil hUs
      rfl
  | case3 t u rest ih =>
      have hRest := ih (List.cons_ne_nil _ _)
      rw [List.cons_append, List.cons_append, join]
      · simp only [List.cons_append] at hRest
        rw [hRest]
        simp only [List.append_assoc]

/-- The mark at which a text is split is in no part. -/
theorem notMem_of_mem_splitOn {mark : CodePoint} {t part : Text} (h : part ∈ t.splitOn mark) :
    mark ∉ part := by
  induction t generalizing part with
  | nil =>
      rw [List.splitOn_nil, List.mem_singleton] at h
      rw [h]
      exact List.not_mem_nil
  | cons c t ih =>
      rw [List.splitOn_cons_eq_if_modifyHead] at h
      split at h
      · rcases List.mem_cons.mp h with rfl | h
        · exact List.not_mem_nil
        · exact ih h
      · next hMark =>
          obtain ⟨first, more, hSplit⟩ := List.exists_cons_of_ne_nil (List.splitOn_ne_nil mark t)
          rw [hSplit, List.modifyHead_cons] at h
          rcases List.mem_cons.mp h with rfl | h
          · have hFirst : mark ∉ first := ih (hSplit ▸ List.mem_cons_self ..)
            rw [List.mem_cons, not_or]
            exact ⟨fun hEq => hMark (beq_iff_eq.mpr hEq.symm), hFirst⟩
          · exact ih (hSplit ▸ List.mem_cons_of_mem _ h)

/-- Joining keeps every code point of every part. -/
theorem mem_join_of_mem {separator part : Text} {ts : List Text} {c : CodePoint}
    (hPart : part ∈ ts) (hc : c ∈ part) : c ∈ join separator ts := by
  fun_induction join separator ts with
  | case1 => cases hPart
  | case2 t => rwa [List.mem_singleton.mp hPart] at hc
  | case3 t u rest ih =>
      rcases List.mem_cons.mp hPart with rfl | hPart
      · exact List.mem_append_left _ (List.mem_append_left _ hc)
      · exact List.mem_append_right _ (ih hPart)

/-- Joining adds nothing but the separator. -/
theorem mem_join {separator : Text} {ts : List Text} {c : CodePoint}
    (hc : c ∈ join separator ts) : c ∈ separator ∨ ∃ part ∈ ts, c ∈ part := by
  fun_induction join separator ts with
  | case1 => cases hc
  | case2 t => exact .inr ⟨t, List.mem_singleton_self t, hc⟩
  | case3 t u rest ih =>
      rcases List.mem_append.mp hc with hc | hc
      · rcases List.mem_append.mp hc with hc | hc
        · exact .inr ⟨t, List.mem_cons_self .., hc⟩
        · exact .inl hc
      · rcases ih hc with hSeparator | ⟨part, hPart, hMem⟩
        · exact .inl hSeparator
        · exact .inr ⟨part, List.mem_cons_of_mem _ hPart, hMem⟩

theorem mem_of_mem_splitOn {mark c : CodePoint} {t part : Text} (hPart : part ∈ t.splitOn mark)
    (hc : c ∈ part) : c ∈ t := by
  rw [← join_splitOn mark t]
  exact mem_join_of_mem hPart hc

end Text

end DemurrageToken
