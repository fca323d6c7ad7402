import AccessAudit.Text.Blank

/-!
# Words

A text falls into words at its blanks. All that is said here follows from one equation: a blank ends
the words before it and begins those after it (`wordLists_append_blank`). So texts that are joined
by blanks have their words one after the other (`words_intercalate`). A text without blanks is one
word (`words_of_not_blank`), and no word has a blank in it (`not_blank_of_mem_words`).

Where a text is cut at each separator, pieces may be empty, and the readers keep what they have of
the current one in reverse. `modifyHead_splitOn_cons` is their step.
-/

namespace AccessAudit.Text

/-! ## On lists of characters -/

/-- Stated for a word that has begun, which is what the recursion carries along. -/
theorem wordsFrom_append_blank {c : Char} (hc : isBlank c = true) (current left right : List Char) :
    wordsFrom current (left ++ c :: right) = wordsFrom current left ++ wordsFrom [] right := by
  induction left generalizing current with
  | nil =>
    cases current with
    | nil => simp [wordsFrom, hc]
    | cons first others => simp [wordsFrom, hc]
  | cons d rest ih =>
    cases hd : isBlank d with
    | true =>
      cases current with
      | nil => simp [wordsFrom, hd, ih]
      | cons first others => simp [wordsFrom, hd, ih]
    | false => simp [wordsFrom, hd, ih]

theorem wordLists_append_blank {c : Char} (hc : isBlank c = true) (left right : List Char) :
    wordLists (left ++ c :: right) = wordLists left ++ wordLists right :=
  wordsFrom_append_blank hc [] left right

theorem wordLists_intercalate (pieces : List (List Char)) :
    wordLists ([' '].intercalate pieces) = pieces.flatMap wordLists := by
  induction pieces with
  | nil => rfl
  | cons first rest ih =>
    cases rest with
    | nil => simp
    | cons second others =>
      have hjoin : [' '].intercalate (first :: second :: others) =
          first ++ ' ' :: [' '].intercalate (second :: others) := by simp
      rw [hjoin, wordLists_append_blank rfl, ih]
      rfl

theorem wordsFrom_of_not_blank {cs : List Char} (h : ∀ c ∈ cs, isBlank c = false)
    (current : List Char) : wordsFrom current cs = wordsFrom (cs.reverse ++ current) [] := by
  induction cs generalizing current with
  | nil => rfl
  | cons c rest ih =>
    rw [List.forall_mem_cons] at h
    have hstep : wordsFrom current (c :: rest) = wordsFrom (c :: current) rest := by
      simp [wordsFrom, h.1]
    rw [hstep, ih h.2, List.reverse_cons, List.append_assoc]
    rfl

theorem wordLists_of_not_blank {cs : List Char} (hne : cs ≠ [])
    (h : ∀ c ∈ cs, isBlank c = false) : wordLists cs = [cs] := by
  rw [wordLists, wordsFrom_of_not_blank h]
  simp [wordsFrom, hne]

theorem not_blank_of_mem_wordsFrom {current cs word : List Char}
    (hcurrent : ∀ c ∈ current, isBlank c = false) (h : word ∈ wordsFrom current cs) :
    word ≠ [] ∧ ∀ c ∈ word, isBlank c = false := by
  have hdone (hne : current ≠ []) :
      current.reverse ≠ [] ∧ ∀ c ∈ current.reverse, isBlank c = false :=
    ⟨by simpa using hne, by simpa using hcurrent⟩
  induction cs generalizing current with
  | nil =>
    cases current with
    | nil => simp [wordsFrom] at h
    | cons first others =>
      obtain rfl : word = (first :: others).reverse := by simpa [wordsFrom] using h
      exact hdone (List.cons_ne_nil _ _)
  | cons c rest ih =>
    rw [wordsFrom] at h
    cases hc : isBlank c with
    | true =>
      have hrest (h : word ∈ wordsFrom [] rest) : word ≠ [] ∧ ∀ c ∈ word, isBlank c = false :=
        ih (by simp) h (fun hne => absurd rfl hne)
      cases current with
      | nil =>
        rw [hc] at h
        exact hrest h
      | cons first others =>
        rw [hc] at h
        rcases List.mem_cons.mp h with rfl | h
        · exact hdone (List.cons_ne_nil _ _)
        · exact hrest h
    | false =>
      rw [hc] at h
      have hnext : ∀ d ∈ c :: current, isBlank d = false := by
        rw [List.forall_mem_cons]
        exact ⟨hc, hcurrent⟩
      exact ih hnext h fun _ => ⟨by simp, fun d hd => hnext d (List.mem_reverse.mp hd)⟩

/-! ## Cutting at a separator -/

theorem modifyHead_splitOn_cons (separator c : Char) (current cs : List Char) :
    ((c :: cs).splitOn separator).modifyHead (current.reverse ++ ·) =
      if c == separator then current.reverse :: cs.splitOn separator
      else (cs.splitOn separator).modifyHead ((c :: current).reverse ++ ·) := by
  rw [List.splitOn_eq_splitOnP, List.splitOnP_cons_eq_if_modifyHead, List.splitOn_eq_splitOnP]
  split
  · simp
  · rw [List.modifyHead_modifyHead]
    simp [Function.comp_def]

/-- Nothing is left of a piece before the first one. -/
theorem modifyHead_splitOn_nil (separator : Char) (cs : List Char) :
    (cs.splitOn separator).modifyHead (([] : List Char).reverse ++ ·) = cs.splitOn separator := by
  cases cs.splitOn separator with
  | nil => rfl
  | cons first rest => rfl

/-! ## On texts -/

variable {s word : String}

theorem words_intercalate (pieces : List String) :
    words (" ".intercalate pieces) = pieces.flatMap words := by
  unfold words
  rw [String.toList_intercalate, show " ".toList = [' '] from rfl, wordLists_intercalate,
    List.flatMap_map, List.map_flatMap]

theorem words_of_not_blank (hne : s ≠ "") (h : ∀ c ∈ s.toList, isBlank c = false) :
    words s = [s] := by
  unfold words
  rw [wordLists_of_not_blank (by simpa using hne) h, List.map_singleton, String.ofList_toList]

theorem not_blank_of_mem_words (h : word ∈ words s) :
    word ≠ "" ∧ ∀ c ∈ word.toList, isBlank c = false := by
  obtain ⟨cs, hcs, rfl⟩ := List.mem_map.mp h
  obtain ⟨hne, hblank⟩ := not_blank_of_mem_wordsFrom (by simp) hcs
  rw [String.toList_ofList]
  exact ⟨by simpa using hne, hblank⟩

theorem words_of_mem_words (h : word ∈ words s) : words word = [word] := by
  obtain ⟨hne, hblank⟩ := not_blank_of_mem_words h
  exact words_of_not_blank hne hblank

end AccessAudit.Text
