import InferRoute.Routing.Context
import Mathlib.Data.List.Basic

/-! Text around a prompt never makes it look simpler to the router. The characters of the whole
are those of its parts; no word of the prompt is lost, since a word that the text around it
extends is still counted once, as part of the longer word; and a pattern that matches some run of
the prompt's characters matches the same run in the whole. So the patterns the prompt matches are
among those the whole matches, in the order they are tried, and a complex prompt stays complex
whatever is written before or after it. -/

namespace InferRoute

namespace Blank

/-- Starting inside a word never counts more words than starting at a gap. -/
theorem countWords_false_le (cs : List Char) : countWords false cs ≤ countWords true cs := by
  cases cs with
  | nil => exact Nat.le_refl _
  | cons c rest => by_cases hc : isBlank c <;> simp [countWords, hc]

/-- Starting at a gap counts at most one word more: the first one. -/
theorem countWords_true_le (cs : List Char) : countWords true cs ≤ countWords false cs + 1 := by
  cases cs with
  | nil => simp [countWords]
  | cons c rest => by_cases hc : isBlank c <;> simp [countWords, hc, Nat.add_comm]

/-- Text after a text only adds words. -/
theorem countWords_le_append_right (atGap : Bool) (cs more : List Char) :
    countWords atGap cs ≤ countWords atGap (cs ++ more) := by
  induction cs generalizing atGap with
  | nil => exact Nat.zero_le _
  | cons c rest ih =>
    by_cases hc : isBlank c
    · simpa [countWords, hc] using ih true
    · simpa [countWords, hc] using ih false

/-- Text before a text only adds words. A nonblank character just before the text merges the
text's first word into its own, which loses that word's count but brings its own. -/
theorem countWords_le_append_left (atGap : Bool) (before cs : List Char) :
    countWords atGap cs ≤ countWords atGap (before ++ cs) := by
  induction before generalizing atGap with
  | nil => exact Nat.le_refl _
  | cons c rest ih =>
    by_cases hc : isBlank c
    · have hgap := ih true
      have hmono : countWords atGap cs ≤ countWords true cs := by
        cases atGap
        · exact countWords_false_le cs
        · exact Nat.le_refl _
      simp only [List.cons_append, countWords, hc, if_true]
      omega
    · have hword := ih false
      have hfirst := countWords_true_le cs
      simp only [List.cons_append, countWords, hc, Bool.false_eq_true, if_false]
      cases atGap
      · simpa using hword
      · -- the word `c` starts stands for the text's first word, if it merged with it
        simp only [if_true]
        omega

/-- A text inside a longer one has no more words than it. -/
theorem wordCount_le_of_infix (x s y : String) : wordCount s ≤ wordCount (x ++ s ++ y) := by
  unfold wordCount
  rw [String.toList_append, String.toList_append]
  calc countWords true s.toList
      ≤ countWords true (x.toList ++ s.toList) := countWords_le_append_left true x.toList s.toList
    _ ≤ countWords true (x.toList ++ s.toList ++ y.toList) :=
      countWords_le_append_right true _ y.toList

end Blank

namespace Pattern

/-- A run of any characters may be empty: pieces that match the start of a text still do with
such a run before them. -/
theorem matchesPrefix_anyRun_of {ignoreCase : Bool} {ps : List Piece} {xs : List Char}
    (h : matchesPrefix ignoreCase ps xs = true) :
    matchesPrefix ignoreCase (.anyRun :: ps) xs = true := by
  cases xs with
  | nil => simp [matchesPrefix, h]
  | cons x rest => simp [matchesPrefix, h]

/-- Pieces that match the start of a text match the start of any longer text. -/
theorem matchesPrefix_append {ignoreCase : Bool} {ps : List Piece} {xs : List Char}
    (more : List Char) (h : matchesPrefix ignoreCase ps xs = true) :
    matchesPrefix ignoreCase ps (xs ++ more) = true := by
  induction ps, xs using matchesPrefix.induct with
  | case1 xs => simp [matchesPrefix]
  | case2 ps xs ih ihRun =>
    cases xs with
    | nil =>
      -- at the end of the text the run is empty, and it stays empty in the longer text
      simp only [matchesPrefix, Bool.or_false] at h
      exact matchesPrefix_anyRun_of (ih h)
    | cons x rest =>
      simp only [List.cons_append, matchesPrefix, Bool.or_eq_true, Bool.and_eq_true] at h ih ihRun ⊢
      rcases h with hps | ⟨hx, hrun⟩
      · exact .inl (ih hps)
      · exact .inr ⟨hx, ihRun hrun⟩
  | case3 head tail hhead => simp [matchesPrefix.eq_4 _ _ _ hhead] at h
  | case4 c ps x rest ih =>
    simp only [List.cons_append, matchesPrefix, Bool.and_eq_true] at h ⊢
    exact ⟨h.1, ih h.2⟩
  | case5 cs ps x rest ih =>
    simp only [List.cons_append, matchesPrefix, Bool.and_eq_true] at h ⊢
    exact ⟨h.1, ih h.2⟩
  | case6 ps x rest ih =>
    simp only [List.cons_append, matchesPrefix, Bool.and_eq_true] at h ⊢
    exact ⟨h.1, ih h.2⟩

variable (p : Pattern)

/-- A pattern matches somewhere in a text exactly when one of its alternatives matches the start
of one of the text's suffixes. -/
theorem matchesSomewhere_iff (xs : List Char) :
    p.matchesSomewhere xs = true ↔
      ∃ pre suf, pre ++ suf = xs ∧ p.alternatives.any (matchesPrefix p.ignoreCase · suf) = true := by
  induction xs with
  | nil => simp [matchesSomewhere]
  | cons x rest ih =>
    rw [matchesSomewhere, Bool.or_eq_true, ih]
    constructor
    · rintro (hhere | ⟨pre, suf, hsplit, hmatch⟩)
      · exact ⟨[], x :: rest, rfl, hhere⟩
      · exact ⟨x :: pre, suf, by rw [List.cons_append, hsplit], hmatch⟩
    · rintro ⟨pre, suf, hsplit, hmatch⟩
      cases pre with
      | nil =>
        rw [List.nil_append] at hsplit
        exact .inl (hsplit ▸ hmatch)
      | cons y pre =>
        obtain ⟨-, hrest⟩ := List.cons_eq_cons.mp hsplit
        exact .inr ⟨pre, suf, hrest, hmatch⟩

/-- A pattern that matches a text matches every text around it. -/
theorem test_of_infix (x s y : String) (h : p.test s = true) : p.test (x ++ s ++ y) = true := by
  unfold test at h ⊢
  rw [String.toList_append, String.toList_append]
  obtain ⟨pre, suf, hsplit, hmatch⟩ := (matchesSomewhere_iff p s.toList).mp h
  obtain ⟨alt, halt, hstart⟩ := List.any_eq_true.mp hmatch
  refine (matchesSomewhere_iff p _).mpr ⟨x.toList ++ pre, suf ++ y.toList, by simp [← hsplit], ?_⟩
  exact List.any_eq_true.mpr ⟨alt, halt, matchesPrefix_append y.toList hstart⟩

end Pattern

namespace RoutingContext

@[simp] theorem analyze_charCount (text : String) : (analyze text).charCount = text.length := rfl

@[simp] theorem analyze_wordCount (text : String) :
    (analyze text).wordCount = Blank.wordCount text := rfl

/-- The patterns a text matches, in the order they are tried, are among those that any text
around it matches. -/
theorem analyze_matchedPatterns_sublist (x s y : String) :
    (analyze s).matchedPatterns.Sublist (analyze (x ++ s ++ y)).matchedPatterns :=
  (List.monotone_filter_right complexityPatterns
    fun p hp => Pattern.test_of_infix p x s y hp).map _

/-- A context with at least the characters, the words and the patterns of a complex one is
complex. -/
theorem isComplex_mono {c d : RoutingContext} (hchars : c.charCount ≤ d.charCount)
    (hwords : c.wordCount ≤ d.wordCount) (hpatterns : c.matchedPatterns.Sublist d.matchedPatterns)
    (h : c.isComplex = true) : d.isComplex = true := by
  simp only [isComplex, Bool.or_eq_true, decide_eq_true_eq, Bool.not_eq_true',
    List.isEmpty_eq_false_iff] at h ⊢
  rcases h with (hlong | hwordy) | hmatched
  · exact .inl (.inl (by omega))
  · exact .inl (.inr (by omega))
  · exact .inr fun hnil => hmatched (List.sublist_nil.mp (hnil ▸ hpatterns))

/-- Text around a prompt only adds to what routing sees: the characters add up, no word is lost,
and every pattern the prompt matches still matches, in the same order. So a complex prompt stays
complex. -/
theorem analyze_monotone_in_context (x s y : String) :
    (analyze (x ++ s ++ y)).charCount = x.length + s.length + y.length ∧
    (analyze s).wordCount ≤ (analyze (x ++ s ++ y)).wordCount ∧
    (analyze s).matchedPatterns.Sublist (analyze (x ++ s ++ y)).matchedPatterns ∧
    ((analyze s).isComplex = true → (analyze (x ++ s ++ y)).isComplex = true) := by
  have hchars : (analyze (x ++ s ++ y)).charCount = x.length + s.length + y.length := by
    simp [String.length_append]
  have hwords := Blank.wordCount_le_of_infix x s y
  have hpatterns := analyze_matchedPatterns_sublist x s y
  refine ⟨hchars, hwords, hpatterns, isComplex_mono ?_ hwords hpatterns⟩
  rw [hchars, analyze_charCount]
  omega

end RoutingContext

end InferRoute
