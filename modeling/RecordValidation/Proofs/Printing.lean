import RecordValidation.Proofs.Grammar

/-!
Annotations in print. Tokens that are put together with bars make an annotation, and are
what this annotation is cut into, as long as none of them holds a bar or a colon where it
would be misread. In the same way dives cut tokens into the parts between them, which make
the tokens again when they are put together with dives.
-/

namespace RecordValidation

/-- No part between separators holds one. -/
theorem not_mem_of_mem_splitOn {α : Type} [DecidableEq α] {separator : α} {l part : List α}
    (h : part ∈ l.splitOn separator) : separator ∉ part := by
  induction l generalizing part with
  | nil =>
    rw [List.splitOn_nil, List.mem_singleton] at h
    rw [h]
    nofun
  | cons a rest ih =>
    rw [List.splitOn_cons_eq_if_modifyHead] at h
    by_cases ha : a = separator
    · rw [if_pos (beq_iff_eq.mpr ha)] at h
      rcases List.mem_cons.mp h with rfl | h
      · nofun
      · exact ih h
    · rw [if_neg (by simpa using ha)] at h
      obtain ⟨first, others, hrest⟩ :=
        List.exists_cons_of_ne_nil (List.splitOn_ne_nil separator rest)
      rw [hrest] at h ih
      rcases List.mem_cons.mp h with rfl | h
      · rw [List.mem_cons, not_or]
        exact ⟨Ne.symm ha, ih List.mem_cons_self⟩
      · exact ih (List.mem_cons_of_mem first h)

theorem pieces_eq_splitOn (separator : Char) (text : List Char) :
    pieces separator text = text.splitOn separator := by
  induction text with
  | nil => rfl
  | cons c rest ih =>
    rw [List.splitOn_cons_eq_if_modifyHead, ← ih]
    by_cases hc : c = separator
    · rw [if_pos (beq_iff_eq.mpr hc), hc, pieces_cons_self]
    · obtain ⟨first, others, hrest⟩ := List.exists_cons_of_ne_nil (pieces_ne_nil separator rest)
      rw [if_neg (by simpa using hc), pieces_cons_of_ne hc hrest, hrest, List.modifyHead_cons]

theorem glue_eq_intercalate (separator : Char) (parts : List (List Char)) :
    glue separator parts = [separator].intercalate parts := by
  induction parts with
  | nil => rfl
  | cons part rest ih =>
    cases rest with
    | nil => rw [glue, List.intercalate_singleton]
    | cons next rest =>
      show part ++ separator :: glue separator (next :: rest) = _
      rw [ih, List.intercalate_cons_cons, List.append_assoc, List.singleton_append]

/-- A text is cut at the first separator that it has. -/
theorem cut_cases (separator : Char) (text : List Char) :
    (separator ∉ text ∧ cut separator text = (text, none)) ∨
      ∃ before after, separator ∉ before ∧ text = before ++ separator :: after ∧
        cut separator text = (before, some after) := by
  induction text with
  | nil => exact .inl ⟨nofun, rfl⟩
  | cons c rest ih =>
    by_cases hc : c = separator
    · subst hc
      exact .inr ⟨[], rest, nofun, rfl, by rw [cut, if_pos rfl]⟩
    rcases ih with ⟨hmem, hcut⟩ | ⟨before, after, hmem, rfl, hcut⟩
    · have hmem' : separator ∉ c :: rest := by
        rw [List.mem_cons, not_or]
        exact ⟨Ne.symm hc, hmem⟩
      exact .inl ⟨hmem', cut_of_not_mem hmem'⟩
    · refine .inr ⟨c :: before, after, ?_, rfl, by rw [cut, if_neg hc, hcut]⟩
      rw [List.mem_cons, not_or]
      exact ⟨Ne.symm hc, hmem⟩

theorem cut_append {separator : Char} {before : List Char} (h : separator ∉ before)
    (after : List Char) : cut separator (before ++ separator :: after) = (before, some after) := by
  induction before with
  | nil => rw [List.nil_append, cut, if_pos rfl]
  | cons c rest ih =>
    rw [List.mem_cons, not_or] at h
    rw [List.cons_append, cut, if_neg (Ne.symm h.1), ih h.2]

namespace Token

/-- Tokens that can be told apart in print: a bar would end the token, and a colon its
name. -/
structure Printable (t : Token) : Prop where
  bar_name : '|' ∉ t.name.toList
  colon_name : ':' ∉ t.name.toList
  bar_arg : ∀ arg, t.arg = some arg → '|' ∉ arg.toList

theorem chars_ofChars (text : List Char) : (ofChars text).chars = text := by
  rcases cut_cases ':' text with ⟨-, hcut⟩ | ⟨before, after, -, rfl, hcut⟩
  · simp only [ofChars, chars, hcut, Option.map_none, String.toList_ofList]
  · simp only [ofChars, chars, hcut, Option.map_some, String.toList_ofList]

theorem ofChars_chars {t : Token} (h : ':' ∉ t.name.toList) : ofChars t.chars = t := by
  obtain ⟨name, arg⟩ := t
  cases arg with
  | none => simp only [ofChars, chars, cut_of_not_mem h, Option.map_none, String.ofList_toList]
  | some arg => simp only [ofChars, chars, cut_append h, Option.map_some, String.ofList_toList]

theorem printable_ofChars {text : List Char} (h : '|' ∉ text) : (ofChars text).Printable := by
  rcases cut_cases ':' text with ⟨hname, hcut⟩ | ⟨before, after, hname, rfl, hcut⟩
  · constructor
    · simpa only [ofChars, hcut, String.toList_ofList] using h
    · simpa only [ofChars, hcut, String.toList_ofList] using hname
    · intro arg harg
      simp only [ofChars, hcut, Option.map_none, reduceCtorEq] at harg
  · rw [List.mem_append, List.mem_cons, not_or, not_or] at h
    obtain ⟨hbefore, -, hafter⟩ := h
    constructor
    · simpa only [ofChars, hcut, String.toList_ofList] using hbefore
    · simpa only [ofChars, hcut, String.toList_ofList] using hname
    · intro arg harg
      simp only [ofChars, hcut, Option.map_some, Option.some.injEq] at harg
      rw [← harg, String.toList_ofList]
      exact hafter

theorem Printable.bar_chars {t : Token} (h : t.Printable) : '|' ∉ t.chars := by
  unfold chars
  cases harg : t.arg with
  | none => exact h.bar_name
  | some arg =>
    rw [List.mem_append, List.mem_cons, not_or, not_or]
    exact ⟨h.bar_name, by decide, h.bar_arg arg harg⟩

/-- The empty text is the print of one token only. -/
theorem eq_of_chars_eq_nil {t : Token} (h : t.chars = []) : t = ⟨"", none⟩ := by
  obtain ⟨name, arg⟩ := t
  cases arg with
  | none =>
    have hname : name = "" := String.toList_inj.mp h
    rw [hname]
  | some arg => simp [chars] at h

end Token

namespace Annotation

theorem ofTokens_eq_intercalate (ts : List Token) :
    ofTokens ts = "|".intercalate (ts.map Token.text) := by
  apply String.toList_inj.mp
  rw [ofTokens, String.toList_ofList, glue_eq_intercalate, String.toList_intercalate, List.map_map]
  congr 1
  apply List.map_congr_left
  intro t _
  exact String.toList_ofList.symm

theorem ofTokens_tokens (text : String) : ofTokens (tokens text) = text := by
  by_cases hempty : text = ""
  · subst hempty
    rfl
  · have hchars : Token.chars ∘ Token.ofChars = id := funext Token.chars_ofChars
    rw [tokens, if_neg (by simpa using hempty), ofTokens, List.map_map, hchars, List.map_id,
      glue_pieces, String.ofList_toList]

theorem printable_of_mem_tokens {text : String} {t : Token} (h : t ∈ tokens text) :
    t.Printable := by
  rw [tokens] at h
  split at h
  · cases h
  · obtain ⟨piece, hpiece, rfl⟩ := List.mem_map.mp h
    rw [pieces_eq_splitOn] at hpiece
    exact Token.printable_ofChars (not_mem_of_mem_splitOn hpiece)

/-- The bars in print stand between tokens. -/
theorem pieces_ofTokens {ts : List Token} (h : ∀ t ∈ ts, t.Printable) (hne : ts ≠ []) :
    pieces '|' (ofTokens ts).toList = ts.map Token.chars := by
  rw [ofTokens, String.toList_ofList, pieces_eq_splitOn, glue_eq_intercalate]
  apply List.splitOn_intercalate
  · intro chars hchars
    obtain ⟨t, ht, rfl⟩ := List.mem_map.mp hchars
    exact (h t ht).bar_chars
  · simpa using hne

/-- Nothing in print is what no token makes, and also one token without a name. -/
theorem ofTokens_ne_empty {ts : List Token} (h : ∀ t ∈ ts, t.Printable) (hne : ts ≠ [])
    (hname : ts ≠ [⟨"", none⟩]) : ofTokens ts ≠ "" := by
  intro hempty
  have hpieces := pieces_ofTokens h hne
  rw [hempty] at hpieces
  obtain ⟨t, rfl, ht⟩ := List.map_eq_singleton_iff.mp hpieces.symm
  exact hname (by rw [Token.eq_of_chars_eq_nil ht])

theorem tokens_ofTokens_iff {ts : List Token} (h : ∀ t ∈ ts, t.Printable) :
    tokens (ofTokens ts) = ts ↔ ts ≠ [⟨"", none⟩] := by
  constructor
  · rintro heq rfl
    cases heq
  · intro hname
    by_cases hne : ts = []
    · subst hne
      rfl
    have hself : ∀ t ∈ ts, (Token.ofChars ∘ Token.chars) t = id t := fun t ht =>
      Token.ofChars_chars (h t ht).colon_name
    rw [tokens, if_neg (by simpa using ofTokens_ne_empty h hne hname), pieces_ofTokens h hne,
      List.map_map, List.map_congr_left hself, List.map_id]

/-- The heads that tokens are cut into at their first dive, then at the first dive of what
is behind it, and so on to the last one. -/
inductive Heads : List Token → List (List Token) → Prop
  | last {ts head : List Token} (h : splitDive ts = (head, none)) : Heads ts [head]
  | next {ts head tail : List Token} {heads : List (List Token)}
      (h : splitDive ts = (head, some tail)) (hs : Heads tail heads) : Heads ts (head :: heads)

theorem flat_iff {ts : List Token} : Flat ts ↔ Token.dive ∉ ts := by
  constructor
  · intro h hmem
    cases h _ hmem
  · intro h t ht
    cases hdive : t.isDive with
    | false => rfl
    | true =>
      rw [Token.isDive_iff.mp hdive] at ht
      exact absurd ht h

theorem levels_eq_splitOn (ts : List Token) : levels ts = ts.splitOn Token.dive := by
  induction ts with
  | nil => rfl
  | cons t rest ih =>
    rw [List.splitOn_cons_eq_if_modifyHead, ← ih, levels]
    cases hrest : levels rest with
    | nil =>
      rw [hrest] at ih
      exact absurd ih.symm (List.splitOn_ne_nil Token.dive rest)
    | cons first others => rfl

theorem heads_splitOn (ts : List Token) : Heads ts (ts.splitOn Token.dive) := by
  induction hlength : ts.length using Nat.strongRecOn generalizing ts with
  | ind n ih =>
    rcases flat_or_eq_append ts with hflat | ⟨head, tail, hflat, rfl⟩
    · rw [List.splitOn_eq_singleton (flat_iff.mp hflat)]
      exact .last (splitDive_of_flat hflat)
    · rw [List.splitOn_append_cons_self_of_not_mem (flat_iff.mp hflat)]
      refine .next (splitDive_append hflat tail) (ih tail.length ?_ tail rfl)
      rw [← hlength, List.length_append, List.length_cons]
      omega

/-- There is one way only to cut tokens again and again. -/
theorem Heads.eq_splitOn {ts : List Token} {heads : List (List Token)} (h : Heads ts heads) :
    heads = ts.splitOn Token.dive := by
  induction h with
  | @last ts head h =>
    rcases flat_or_eq_append ts with hflat | ⟨head', tail, hflat, rfl⟩
    · rw [splitDive_of_flat hflat] at h
      cases h
      rw [List.splitOn_eq_singleton (flat_iff.mp hflat)]
    · rw [splitDive_append hflat] at h
      cases h
  | @next ts head tail heads h hs ih =>
    rcases flat_or_eq_append ts with hflat | ⟨head', tail', hflat, rfl⟩
    · rw [splitDive_of_flat hflat] at h
      cases h
    · rw [splitDive_append hflat] at h
      cases h
      rw [List.splitOn_append_cons_self_of_not_mem (flat_iff.mp hflat), ih]

/-- Heads are what lies between dives. -/
theorem heads_iff {ts : List Token} {heads : List (List Token)} :
    Heads ts heads ↔ heads ≠ [] ∧ (∀ head ∈ heads, Token.dive ∉ head) ∧
      [Token.dive].intercalate heads = ts := by
  constructor
  · intro h
    rw [h.eq_splitOn]
    exact ⟨List.splitOn_ne_nil _ _, fun head => not_mem_of_mem_splitOn,
      List.intercalate_splitOn _⟩
  · rintro ⟨hne, hdive, rfl⟩
    have h := heads_splitOn ([Token.dive].intercalate heads)
    rwa [List.splitOn_intercalate _ hdive hne] at h

/-- To print tokens is the inverse of reading them. Every annotation is the print of its
tokens, and printable tokens are read back from their print, but for the one without a name
and an argument when it stands alone. To cut tokens at one dive after another gives the parts
between dives: no part holds one, and put together with dives they are the tokens again. -/
theorem printing_inverts_reading :
    (∀ ts, ofTokens ts = "|".intercalate (ts.map Token.text)) ∧
    (∀ text, ofTokens (tokens text) = text ∧ ∀ t ∈ tokens text, t.Printable) ∧
    (∀ ts, (∀ t ∈ ts, t.Printable) → (tokens (ofTokens ts) = ts ↔ ts ≠ [⟨"", none⟩])) ∧
    (∀ ts, Heads ts (levels ts)) ∧
    ∀ ts heads, Heads ts heads ↔ heads ≠ [] ∧ (∀ head ∈ heads, ⟨"dive", none⟩ ∉ head) ∧
      [⟨"dive", none⟩].intercalate heads = ts := by
  refine ⟨ofTokens_eq_intercalate, ?_, fun ts => tokens_ofTokens_iff, ?_, fun ts heads => heads_iff⟩
  · exact fun text => ⟨ofTokens_tokens text, fun t => printable_of_mem_tokens⟩
  · intro ts
    rw [levels_eq_splitOn]
    exact heads_splitOn ts

/-- Colons in an argument, arguments that are empty and names that are empty. -/
theorem printing_inverts_reading_colons :
    let ts : List Token := [⟨"regex", some "^a:b$"⟩, ⟨"", none⟩, ⟨"min", some ""⟩,
      ⟨"dive", some ""⟩, ⟨"dive", none⟩, ⟨"", some ":"⟩]
    (∀ t ∈ ts, t.Printable) ∧ tokens "regex:^a:b$||min:|dive:|dive|::" = ts := by
  intro ts
  have hchars : ∀ t ∈ ts, '|' ∉ t.name.toList ∧ ':' ∉ t.name.toList ∧
      ∀ arg ∈ t.arg, '|' ∉ arg.toList := by decide
  have hprintable : ∀ t ∈ ts, t.Printable := fun t ht =>
    ⟨(hchars t ht).1, (hchars t ht).2.1, (hchars t ht).2.2⟩
  exact ⟨hprintable, (printing_inverts_reading.2.2.1 ts hprintable).mpr (by decide)⟩

end Annotation

end RecordValidation
