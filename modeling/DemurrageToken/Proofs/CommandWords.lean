import DemurrageToken.CommandLine.Request
import DemurrageToken.Proofs.Except
import DemurrageToken.Proofs.UrlParts

/-! Words of a command line in any arrangement of options and other words. How a
value is attached to its option and where the option stands does not matter; of
an option that is repeated the last value counts. -/
namespace DemurrageToken.CommandLine

/-! ### Options -/

theorem OptionName.find?_long (o : OptionName) :
    [version, lcdUrl, contract, verbose, startAfter, limit, help].find? (·.long = o.long) =
      some o := by
  cases o <;> decide

theorem OptionName.long_injective {o p : OptionName} (h : o.long = p.long) : o = p := by
  have hFound := o.find?_long
  rw [h, p.find?_long] at hFound
  exact (Option.some.inj hFound).symm

/-- The long form of an option begins with two dashes, goes on, and holds no
equals sign. -/
theorem OptionName.long_spec (o : OptionName) : ∃ c rest,
    o.long = .scalar '-' :: .scalar '-' :: c :: rest ∧ .scalar '=' ∉ o.long := by
  cases o <;> exact ⟨_, _, rfl, by decide⟩

theorem find?_of_unique {options : List OptionName} {o : OptionName} {p : OptionName → Bool}
    (ho : o ∈ options) (hp : p o = true) (hUnique : ∀ q, p q = true → q = o) :
    options.find? p = some o := by
  have hFound : (options.find? p).isSome = true := List.find?_isSome.mpr ⟨o, ho, hp⟩
  obtain ⟨q, hq⟩ := Option.isSome_iff_exists.mp hFound
  rw [hq, hUnique q (List.find?_some hq)]

theorem find?_of_mem {options : List OptionName} {o : OptionName} (ho : o ∈ options) :
    options.find? (·.long = o.long) = some o :=
  find?_of_unique ho (decide_eq_true rfl) fun _ hq =>
    OptionName.long_injective (of_decide_eq_true hq)

/-! ### Dividing words -/

/-- Words in which options and other words stand in any order. -/
inductive Arranged (options : List OptionName) :
    List Text → List (OptionName × Text) → List Text → Prop where
  | nil : Arranged options [] [] []
  | other {word : Text} {words others : List Text} {given : List (OptionName × Text)}
      (hWord : word.head? ≠ some (.scalar '-')) (rest : Arranged options words given others) :
      Arranged options (word :: words) given (word :: others)
  /-- The value is the next word, whatever it looks like. -/
  | apart {o : OptionName} {value : Text} {words others : List Text}
      {given : List (OptionName × Text)} (ho : o ∈ options) (hValue : o.takesValue = true)
      (rest : Arranged options words given others) :
      Arranged options (o.long :: value :: words) ((o, value) :: given) others
  /-- The value follows an equals sign. -/
  | joined {o : OptionName} {value : Text} {words others : List Text}
      {given : List (OptionName × Text)} (ho : o ∈ options) (hValue : o.takesValue = true)
      (rest : Arranged options words given others) :
      Arranged options ((o.long ++ .scalar '=' :: value) :: words) ((o, value) :: given) others
  | flag {o : OptionName} {words others : List Text} {given : List (OptionName × Text)}
      (ho : o ∈ options) (hValue : o.takesValue = false)
      (rest : Arranged options words given others) :
      Arranged options (o.long :: words) ((o, []) :: given) others
  /-- One option alone has a letter, which may be repeated. -/
  | letters (count : Nat) {words others : List Text} {given : List (OptionName × Text)}
      (ho : .verbose ∈ options) (rest : Arranged options words given others) :
      Arranged options ((.scalar '-' :: List.replicate (count + 1) (.scalar 'v')) :: words)
        (List.replicate (count + 1) (.verbose, []) ++ given) others

namespace Words

variable {options plain : List OptionName} {o : OptionName} {mixed : Bool}

/-- An option is a dash and something more. -/
theorem exists_of_isOption {word : Text} (h : isOption word = true) :
    ∃ c rest, word = .scalar '-' :: c :: rest := by
  simp only [isOption, Bool.and_eq_true, decide_eq_true_eq] at h
  match word, h with
  | d :: c :: rest, ⟨hHead, _⟩ =>
      rw [List.head?_cons, Option.some.injEq] at hHead
      exact ⟨c, rest, by rw [hHead]⟩

/-- A word without a dash is no option, and ends the options of the program itself. -/
theorem divide_other {word : Text} (h : word.head? ≠ some (.scalar '-')) (words : List Text) :
    divide options mixed (word :: words) =
      if mixed then (divide options mixed words).map (withOther word)
      else .ok ⟨[], word :: words⟩ := by
  have hDashes : word ≠ Text.ofString "--" := by
    rintro rfl
    exact h rfl
  have hOption : isOption word = false := by simp [isOption, h]
  rw [divide.eq_def]
  simp only [hDashes, hOption, if_false, Bool.false_eq_true]

/-- An option takes the next word for its value. -/
theorem divide_apart (ho : o ∈ options) (hValue : o.takesValue = true) (value : Text)
    (words : List Text) :
    divide options mixed (o.long :: value :: words) =
      (divide options mixed words).map (withOption o value) := by
  obtain ⟨c, rest, hLong, hEquals⟩ := o.long_spec
  have hDashes : o.long ≠ Text.ofString "--" := by simp [hLong, Text.ofString, Text.ofChars]
  have hOption : isOption o.long = true := by simp [isOption, hLong]
  rw [divide.eq_def]
  simp only [hDashes, hOption, if_false, if_true, Url.splitAtFirst_of_notMem hEquals,
    find?_of_mem ho, hValue]

/-- An option takes what follows the equals sign for its value. -/
theorem divide_joined (ho : o ∈ options) (hValue : o.takesValue = true) (value : Text)
    (words : List Text) :
    divide options mixed ((o.long ++ .scalar '=' :: value) :: words) =
      (divide options mixed words).map (withOption o value) := by
  obtain ⟨c, rest, hLong, hEquals⟩ := o.long_spec
  have hDashes : o.long ++ .scalar '=' :: value ≠ Text.ofString "--" := by
    simp [hLong, Text.ofString, Text.ofChars]
  have hOption : isOption (o.long ++ .scalar '=' :: value) = true := by simp [isOption, hLong]
  have hSplit : Url.splitAtFirst '=' (o.long ++ .scalar '=' :: value) = (o.long, some value) := by
    have hSpan : (o.long ++ .scalar '=' :: value).span (· ≠ .scalar '=') =
        (o.long, .scalar '=' :: value) := by
      rw [Text.span_eq_iff]
      refine ⟨rfl, fun c hc => decide_eq_true (ne_of_mem_of_not_mem hc hEquals), ?_⟩
      rintro c ⟨⟩
      decide
    rw [Url.splitAtFirst, hSpan]
  rw [divide.eq_def]
  simp only [hDashes, hOption, if_false, if_true, hSplit, find?_of_mem ho, hValue]

/-- An option without a value takes no word. -/
theorem divide_flag (ho : o ∈ options) (hValue : o.takesValue = false) (words : List Text) :
    divide options mixed (o.long :: words) =
      (divide options mixed words).map (withOption o []) := by
  obtain ⟨c, rest, hLong, hEquals⟩ := o.long_spec
  have hDashes : o.long ≠ Text.ofString "--" := by simp [hLong, Text.ofString, Text.ofChars]
  have hOption : isOption o.long = true := by simp [isOption, hLong]
  rw [divide.eq_def]
  simp only [hDashes, hOption, if_false, if_true, Url.splitAtFirst_of_notMem hEquals,
    find?_of_mem ho, hValue, Option.isSome_none, Bool.false_eq_true]

/-- A letter may be repeated in a cluster. -/
theorem letters_replicate (hVerbose : .verbose ∈ options) (count : Nat) :
    letters options (List.replicate count (.scalar 'v')) =
      .ok (List.replicate count .verbose) := by
  have hLetter : options.find? (fun o => o.short?.map CodePoint.scalar = some (.scalar 'v')) =
      some .verbose := by
    refine find?_of_unique hVerbose (by decide) fun q hq => ?_
    cases q <;> first | rfl | exact absurd (of_decide_eq_true hq) (by decide)
  rw [letters]
  induction count with
  | zero => rfl
  | succ count ih =>
      simp only [List.replicate_succ, List.mapM_cons, hLetter, ih, Except.ok_bind]
      rfl

/-- Letters that are read are all of one option. -/
theorem exists_replicate {cluster : Text} {found : List OptionName}
    (h : letters options cluster = .ok found) :
    ∃ count, cluster = List.replicate count (.scalar 'v') ∧
      found = List.replicate count .verbose ∧ (0 < count → .verbose ∈ options) := by
  rw [letters] at h
  induction cluster generalizing found with
  | nil =>
      cases h
      exact ⟨0, rfl, rfl, fun hCount => absurd hCount (Nat.lt_irrefl 0)⟩
  | cons c cluster ih =>
      rw [List.mapM_cons] at h
      obtain ⟨o, ho, hRest⟩ := Except.bind_eq_ok_iff.mp h
      obtain ⟨others, hOthers, hFound⟩ := Except.bind_eq_ok_iff.mp hRest
      cases hFound
      obtain ⟨count, rfl, rfl, -⟩ := ih hOthers
      split at ho
      · next hOption =>
          cases ho
          have hLetter : o.short?.map CodePoint.scalar = some c := by
            simpa using List.find?_some hOption
          obtain ⟨rfl, rfl⟩ : o = .verbose ∧ c = .scalar 'v' := by
            cases o <;> cases hLetter
            exact ⟨rfl, rfl⟩
          exact ⟨count + 1, rfl, rfl, fun _ => List.mem_of_find?_eq_some hOption⟩
      · cases ho

/-- A cluster of letters gives one option for each. -/
theorem divide_letters (hVerbose : .verbose ∈ options) (count : Nat) (words : List Text) :
    divide options mixed ((.scalar '-' :: List.replicate (count + 1) (.scalar 'v')) :: words) =
      (divide options mixed words).map (withOptions (List.replicate (count + 1) .verbose)) := by
  have hEquals : CodePoint.scalar '=' ∉
      .scalar '-' :: List.replicate (count + 1) (CodePoint.scalar 'v') := by
    simp
  have hLong : options.find? (fun o => decide
      (o.long = .scalar '-' :: List.replicate (count + 1) (.scalar 'v'))) = none := by
    rw [List.find?_eq_none]
    intro o _ hSame
    obtain ⟨c, rest, hDashes, -⟩ := o.long_spec
    have hLetter := (of_decide_eq_true hSame).symm.trans hDashes
    simp [List.replicate_succ] at hLetter
  have hDashes : .scalar '-' :: List.replicate (count + 1) (.scalar 'v') ≠ Text.ofString "--" := by
    simp [List.replicate_succ, Text.ofString, Text.ofChars]
  have hOption : isOption (.scalar '-' :: List.replicate (count + 1) (.scalar 'v')) = true := by
    simp [isOption]
  have hStart : Text.startsWith "--"
      (.scalar '-' :: List.replicate (count + 1) (.scalar 'v')) = false := by
    rfl
  rw [divide.eq_def]
  simp only [hDashes, hOption, if_false, if_true, Url.splitAtFirst_of_notMem hEquals, hLong, hStart,
    Bool.false_eq_true, List.drop_succ_cons, List.drop_zero, letters_replicate hVerbose]

/-- Arranged words are divided as they were put together, and so is what comes
after them. Other words among them are no obstacle where words may mix. -/
theorem divide_of_arranged (hOptions : ∀ o ∈ plain, o ∈ options)
    {words others : List Text} {given : List (OptionName × Text)}
    (h : Arranged plain words given others) (hMixed : mixed = true ∨ others = [])
    (rest : List Text) :
    divide options mixed (words ++ rest) =
      (divide options mixed rest).map fun w => ⟨given ++ w.given, others ++ w.others⟩ := by
  have hMap : ∀ (x : Except Misuse Words) (f g : Words → Words),
      (x.map f).map g = x.map (g ∘ f) := by
    intro x f g
    cases x <;> rfl
  -- What is divided off in front is put back by a map, and the maps are composed.
  induction h with
  | nil =>
      rw [List.nil_append]
      cases divide options mixed rest <;> rfl
  | @other word words others given hWord _ ih =>
      obtain rfl : mixed = true := hMixed.resolve_right (List.cons_ne_nil _ _)
      rw [List.cons_append, divide_other hWord, if_pos rfl, ih (.inl rfl), hMap]
      rfl
  | apart ho hValue _ ih =>
      rw [List.cons_append, List.cons_append, divide_apart (hOptions _ ho) hValue, ih hMixed, hMap]
      rfl
  | joined ho hValue _ ih =>
      rw [List.cons_append, divide_joined (hOptions _ ho) hValue, ih hMixed, hMap]
      rfl
  | flag ho hValue _ ih =>
      rw [List.cons_append, divide_flag (hOptions _ ho) hValue, ih hMixed, hMap]
      rfl
  | letters count ho _ ih =>
      rw [List.cons_append, divide_letters (hOptions _ ho), ih hMixed, hMap]
      simp only [Function.comp_def, withOptions, List.map_replicate, List.append_assoc]

theorem eager?_eq_none_iff {w : Words} :
    w.eager? = none ↔ ∀ entry ∈ w.given, entry.1.isEager = false := by
  simp only [eager?, Option.map_eq_none_iff, List.find?_eq_none, Bool.not_eq_true]

/-- An eager option behind arranged words is found, if the words after it can be
divided at all. -/
theorem eager?_of_divide (hOptions : ∀ o ∈ plain, o ∈ options)
    {words others : List Text} {given : List (OptionName × Text)}
    (h : Arranged plain words given others) (hMixed : mixed = true ∨ others = [])
    (ho : o ∈ options) (hEager : o.isEager = true) {rest : List Text} {w : Words}
    (hDivide : divide options mixed (words ++ o.long :: rest) = .ok w) :
    ∃ found, w.eager? = some found := by
  have hValue : o.takesValue = false := by
    revert hEager
    cases o <;> decide
  rw [divide_of_arranged hOptions h hMixed, divide_flag ho hValue] at hDivide
  obtain ⟨w', hRest, rfl⟩ := Except.map_eq_ok_iff.mp hDivide
  obtain ⟨w'', -, rfl⟩ := Except.map_eq_ok_iff.mp hRest
  have hMem : (o, []) ∈ given ++ (withOption o [] w'').given := by simp [withOption]
  rw [← Option.ne_none_iff_exists', Ne, eager?_eq_none_iff]
  intro hNone
  rw [hNone _ hMem] at hEager
  cases hEager

/-- Words that are divided, no eager option among them, are arranged up to the
first other word, with or without a mark before it. -/
theorem exists_arranged {words : List Text} {w : Words} (h : divide options false words = .ok w)
    (hEager : w.eager? = none) :
    ∃ before rest, words = before ++ rest ∧
      (rest = w.others ∨ rest = Text.ofString "--" :: w.others) ∧
      Arranged (options.filter (!·.isEager)) before w.given [] := by
  rw [eager?_eq_none_iff] at hEager
  have hPlain : ∀ {name : Text} {o : OptionName},
      options.find? (·.long = name) = some o → o.isEager = false →
      o.long = name ∧ o ∈ options.filter (!·.isEager) := by
    intro name o hOption hLazy
    exact ⟨by simpa using List.find?_some hOption,
      List.mem_filter.mpr ⟨List.mem_of_find?_eq_some hOption, by simp [hLazy]⟩⟩
  -- Along the division: every option that is found goes in front of what the
  -- words after it are arranged as.
  fun_induction divide options false words generalizing w with
  | case1 =>
      cases h
      exact ⟨[], [], rfl, .inl rfl, .nil⟩
  | case2 rest =>
      cases h
      exact ⟨[], _, rfl, .inr rfl, .nil⟩
  | case3 word words _ _ name o hOption hValue value hSplit ih =>
      obtain ⟨w, hRest, rfl⟩ := Except.map_eq_ok_iff.mp h
      obtain ⟨hLazy, hOthers⟩ := List.forall_mem_cons.mp hEager
      obtain ⟨before, rest, rfl, hEnd, hBefore⟩ := ih hRest hOthers
      obtain ⟨rfl, hMem⟩ := hPlain hOption hLazy
      exact ⟨word :: before, rest, rfl, hEnd,
        Url.eq_append_of_splitAtFirst hSplit ▸ .joined hMem hValue hBefore⟩
  | case4 word _ _ name o hOption hValue value words hSplit ih =>
      obtain ⟨w, hRest, rfl⟩ := Except.map_eq_ok_iff.mp h
      obtain ⟨hLazy, hOthers⟩ := List.forall_mem_cons.mp hEager
      obtain ⟨before, rest, rfl, hEnd, hBefore⟩ := ih hRest hOthers
      obtain ⟨rfl, hMem⟩ := hPlain hOption hLazy
      have hWord : word = o.long := by simpa using Url.eq_append_of_splitAtFirst hSplit
      exact ⟨word :: value :: before, rest, rfl, hEnd, hWord ▸ .apart hMem hValue hBefore⟩
  | case7 word words _ _ name value? hSplit o hOption hValue hNone ih =>
      obtain ⟨w, hRest, rfl⟩ := Except.map_eq_ok_iff.mp h
      obtain ⟨hLazy, hOthers⟩ := List.forall_mem_cons.mp hEager
      obtain ⟨before, rest, rfl, hEnd, hBefore⟩ := ih hRest hOthers
      obtain ⟨rfl, hMem⟩ := hPlain hOption hLazy
      rw [Option.not_isSome_iff_eq_none] at hNone
      subst hNone
      have hWord : word = o.long := by simpa using Url.eq_append_of_splitAtFirst hSplit
      exact ⟨word :: before, rest, rfl, hEnd,
        hWord ▸ .flag hMem (Bool.eq_false_iff.mpr hValue) hBefore⟩
  | case10 word words _ hWord _ _ _ _ _ found hLetters ih =>
      obtain ⟨w, hRest, rfl⟩ := Except.map_eq_ok_iff.mp h
      obtain ⟨-, hOthers⟩ := List.forall_mem_append.mp hEager
      obtain ⟨before, rest, rfl, hEnd, hBefore⟩ := ih hRest hOthers
      obtain ⟨c, cluster, rfl⟩ := exists_of_isOption hWord
      obtain ⟨count, hCluster, rfl, hVerbose⟩ := exists_replicate hLetters
      rw [List.drop_succ_cons, List.drop_zero] at hCluster
      obtain ⟨count, rfl⟩ : ∃ fewer, count = fewer + 1 :=
        Nat.exists_eq_succ_of_ne_zero (by rintro rfl; cases hCluster)
      have hMem : .verbose ∈ options.filter (!·.isEager) :=
        List.mem_filter.mpr ⟨hVerbose (Nat.succ_pos count), rfl⟩
      have hArranged := Arranged.letters count hMem hBefore
      rw [← hCluster] at hArranged
      refine ⟨_ :: before, rest, rfl, hEnd, ?_⟩
      simpa [withOptions] using hArranged
  | case12 word words _ _ _ =>
      cases h
      exact ⟨[], _, rfl, .inl rfl, .nil⟩
  | case5 | case6 | case8 | case9 => cases h
  | case11 => contradiction

end Words

/-! ### Values -/

/-- The value that counts of an option, if it is given at all. -/
inductive Last (given : List (OptionName × Text)) (o : OptionName) : Option Text → Prop where
  | absent (h : o ∉ given.map Prod.fst) : Last given o none
  | last {before after : List (OptionName × Text)} {value : Text}
      (hGiven : given = before ++ (o, value) :: after) (h : o ∉ after.map Prod.fst) :
      Last given o (some value)

/-- Of an option that is repeated the last value counts. -/
theorem Last.value?_eq {w : Words} {o : OptionName} {value? : Option Text}
    (h : Last w.given o value?) : w.value? o = value? := by
  have hNotFound : ∀ {entries : List (OptionName × Text)}, o ∉ entries.map Prod.fst →
      entries.reverse.find? (fun entry => decide (entry.1 = o)) = none := by
    intro entries hEntries
    rw [List.find?_eq_none]
    intro entry hEntry hSame
    exact hEntries (List.mem_map.mpr
      ⟨entry, List.mem_reverse.mp hEntry, of_decide_eq_true hSame⟩)
  rw [Words.value?]
  cases h with
  | absent h =>
      rw [hNotFound h]
      rfl
  | @last before after value hGiven h =>
      rw [hGiven, List.reverse_append, List.reverse_cons, List.append_assoc, List.find?_append,
        hNotFound h]
      simp

/-- What is given in arranged words are the options that they are arranged of. -/
theorem Arranged.mem_options {options : List OptionName} {words others : List Text}
    {given : List (OptionName × Text)} (h : Arranged options words given others) :
    ∀ entry ∈ given, entry.1 ∈ options := by
  induction h with
  | nil => exact fun entry hEntry => absurd hEntry List.not_mem_nil
  | other _ _ ih => exact ih
  | apart ho _ _ ih => exact List.forall_mem_cons.mpr ⟨ho, ih⟩
  | joined ho _ _ ih => exact List.forall_mem_cons.mpr ⟨ho, ih⟩
  | flag ho _ _ ih => exact List.forall_mem_cons.mpr ⟨ho, ih⟩
  | letters count ho _ ih =>
      refine List.forall_mem_append.mpr ⟨fun entry hEntry => ?_, ih⟩
      rw [List.eq_of_mem_replicate hEntry]
      exact ho

theorem Arranged.eager?_eq_none {options : List OptionName} {words others : List Text}
    {given : List (OptionName × Text)} (h : Arranged options words given others)
    (hOptions : ∀ o ∈ options, o.isEager = false) (rest : List Text) :
    Words.eager? ⟨given, rest⟩ = none := by
  rw [Words.eager?_eq_none_iff]
  exact fun entry hEntry => hOptions _ (h.mem_options entry hEntry)

end DemurrageToken.CommandLine
