import StateIntern.Text.Word

/-! The cut of a text into words. It is the only one into maximal words and single other
characters, and a text keeps its cut when each word is exchanged for another word. -/
namespace StateIntern.Text

/-- A word that ends before this text cannot be continued by it. -/
def Stops (text : List Char) : Prop := ∀ c ∈ text.head?, isWordChar c = false

def IsWord (letters : List Char) : Prop := letters ≠ [] ∧ ∀ c ∈ letters, isWordChar c = true

instance (letters : List Char) : Decidable (IsWord letters) :=
  decidable_of_iff (letters ≠ [] ∧ letters.all isWordChar = true) (by simp [IsWord])

/-- Maximal words and single other characters that make up the text. -/
inductive Splits : List Char → List Piece → Prop where
  | nil : Splits [] []
  | gap : isWordChar c = false → Splits text ps → Splits (c :: text) (.gap c :: ps)
  | word : IsWord letters → Stops text → Splits text ps →
      Splits (letters ++ text) (.word letters :: ps)

theorem stops_nil : Stops [] := by simp [Stops]

theorem stops_cons_iff {c : Char} {text : List Char} :
    Stops (c :: text) ↔ isWordChar c = false := by
  simp [Stops]

theorem isWord_cons {c : Char} {letters : List Char} (first : isWordChar c = true)
    (others : ∀ d ∈ letters, isWordChar d = true) : IsWord (c :: letters) :=
  ⟨List.cons_ne_nil _ _, List.forall_mem_cons.2 ⟨first, others⟩⟩

theorem pieces_gap {c : Char} (other : isWordChar c = false) (text : List Char) :
    pieces (c :: text) = .gap c :: pieces text := by
  simp [pieces, other]

theorem Splits.stops_iff (cut : Splits text ps) :
    Stops text ↔ ∀ letters more, ps ≠ .word letters :: more := by
  cases cut with
  | nil => simp [stops_nil]
  | gap other rest => simp [stops_cons_iff, other]
  | word letters stops rest =>
    obtain ⟨filled, wordChars⟩ := letters
    obtain ⟨c, others, rfl⟩ := List.exists_cons_of_ne_nil filled
    have first := wordChars c List.mem_cons_self
    simp [stops_cons_iff, first]

theorem splits_pieces (text : List Char) : Splits text (pieces text) := by
  induction text with
  | nil => exact .nil
  | cons c rest ih =>
    simp only [pieces]
    split
    next first =>
      split
      next letters more cut =>
        rw [cut] at ih
        cases ih with
        | word letters stops tail => exact .word (isWord_cons first letters.2) stops tail
      next noWord =>
        have single : IsWord [c] := isWord_cons first (by simp)
        exact .word single (ih.stops_iff.2 noWord) ih
    next other => exact .gap (by simpa using other) ih

theorem pieces_word {letters rest : List Char} (isWord : IsWord letters) (stops : Stops rest) :
    pieces (letters ++ rest) = .word letters :: pieces rest := by
  obtain ⟨filled, wordChars⟩ := isWord
  have noWord := (splits_pieces rest).stops_iff.1 stops
  induction letters with
  | nil => exact absurd rfl filled
  | cons c others ih =>
    have first := wordChars c List.mem_cons_self
    rw [List.cons_append]
    simp only [pieces, first, if_true]
    cases others with
    | nil =>
      rw [List.nil_append]
      split
      next letters more cut => exact absurd cut (noWord letters more)
      next => rfl
    | cons d others =>
      rw [ih (List.cons_ne_nil _ _) fun e member => wordChars e (List.mem_cons_of_mem _ member)]

/-- There is one cut. -/
theorem splits_iff {text : List Char} {ps : List Piece} : Splits text ps ↔ pieces text = ps := by
  constructor
  · intro cut
    induction cut with
    | nil => rfl
    | gap other rest ih => rw [pieces_gap other, ih]
    | word isWord stops rest ih => rw [pieces_word isWord stops, ih]
  · rintro rfl
    exact splits_pieces text

theorem pieces_inj {t u : List Char} : pieces t = pieces u ↔ t = u := by
  constructor
  · intro same
    rw [← flatMap_chars_pieces t, same, flatMap_chars_pieces]
  · rintro rfl
    rfl

/-- Words exchanged for words and other characters kept. -/
theorem Splits.exchange {f : List Char → List Char}
    (keeps : ∀ letters, IsWord letters → IsWord (f letters)) (cut : Splits text ps) :
    Splits (ps.flatMap fun | .word letters => f letters | .gap c => [c])
      (ps.map fun | .word letters => .word (f letters) | .gap c => .gap c) := by
  induction cut with
  | nil => exact .nil
  | gap other rest ih => exact .gap other ih
  | word isWord stops rest ih =>
    refine .word (keeps _ isWord) (ih.stops_iff.2 fun letters more same => ?_) ih
    cases rest with
    | nil => simp at same
    | gap => simp at same
    | word isNext next tail =>
      exact (Splits.word isNext next tail).stops_iff.1 stops _ _ rfl

theorem Splits.append_gap {c : Char} {before after : List Char} {ps qs : List Piece}
    (left : Splits before ps) (other : isWordChar c = false) (right : Splits after qs) :
    Splits (before ++ c :: after) (ps ++ .gap c :: qs) := by
  induction left with
  | nil => exact .gap other right
  | gap first _ ih => exact .gap first ih
  | @word letters text ps isWord stops _ ih =>
    have next : Stops (text ++ c :: after) := by
      cases text with
      | nil => exact stops_cons_iff.2 other
      | cons d text => exact stops_cons_iff.2 (stops_cons_iff.1 stops)
    rw [List.append_assoc]
    exact .word isWord next ih

theorem pieces_append_gap {c : Char} (other : isWordChar c = false) (before after : List Char) :
    pieces (before ++ c :: after) = pieces before ++ .gap c :: pieces after :=
  splits_iff.1 ((splits_pieces before).append_gap other (splits_pieces after))

theorem Splits.isWord_of_mem (cut : Splits text ps) {letters : List Char}
    (member : .word letters ∈ ps) : IsWord letters := by
  induction cut with
  | nil => contradiction
  | gap _ _ ih =>
    rcases List.mem_cons.1 member with same | later
    · contradiction
    · exact ih later
  | word isWord _ _ ih =>
    rcases List.mem_cons.1 member with same | later
    · cases same
      exact isWord
    · exact ih later

theorem Splits.other_of_mem (cut : Splits text ps) {c : Char} (member : .gap c ∈ ps) :
    isWordChar c = false := by
  induction cut with
  | nil => contradiction
  | gap other _ ih =>
    rcases List.mem_cons.1 member with same | later
    · cases same
      exact other
    · exact ih later
  | word _ _ _ ih =>
    rcases List.mem_cons.1 member with same | later
    · contradiction
    · exact ih later

theorem mem_of_mem_pieces {text : List Char} {p : Piece} (member : p ∈ pieces text) {c : Char}
    (inside : c ∈ p.chars) : c ∈ text := by
  rw [← flatMap_chars_pieces text]
  exact List.mem_flatMap.2 ⟨p, member, inside⟩

def Piece.word? : Piece → Option (List Char)
  | .word letters => some letters
  | .gap _ => none

theorem runs_gap {c : Char} (other : isWordChar c = false) (text : List Char) :
    runs (c :: text) = [] :: runs text := by
  simp [runs, other]

/-- Letters extend the first run of what follows them, and where that is no word this run is
empty. -/
theorem runs_append {letters rest : List Char} (wordChars : ∀ c ∈ letters, isWordChar c = true)
    (stops : Stops rest) : runs (letters ++ rest) = letters :: (runs rest).tail := by
  induction letters with
  | nil =>
    cases rest with
    | nil => rfl
    | cons c rest => rw [List.nil_append, runs_gap (stops_cons_iff.1 stops), List.tail_cons]
  | cons c letters ih =>
    rw [List.forall_mem_cons] at wordChars
    simp only [List.cons_append, runs, wordChars.1, if_true, ih wordChars.2]

/-- Between the other characters stand the words of the cut, in order, and empty runs where two of
these characters meet. -/
theorem filter_runs (text : List Char) :
    (runs text).filter (· ≠ []) = (pieces text).filterMap Piece.word? := by
  have cut := splits_pieces text
  generalize pieces text = ps at cut
  induction cut with
  | nil => rfl
  | gap other rest ih =>
    rw [runs_gap other, List.filterMap_cons_none rfl, ← ih]
    rfl
  | @word letters text ps isWord stops rest ih =>
    have first : runs text = [] :: (runs text).tail := runs_append (List.forall_mem_nil _) stops
    rw [first] at ih
    rw [runs_append isWord.2 stops]
    simpa [Piece.word?, isWord.1] using ih

/-- Empty runs hold nothing, so the first marked run is the first marked word of the cut. -/
theorem reservedWord?_eq (text : String) :
    reservedWord? text = (((pieces text.toList).filterMap Piece.word?).find?
      (·.contains placeholder)).map String.ofList := by
  rw [reservedWord?, ← filter_runs, List.find?_filter]
  congr 2
  funext run
  cases run <;> simp

theorem reservedWord?_eq_some_iff {text word : String} : reservedWord? text = some word ↔
    ∃ before after, pieces text.toList = before ++ .word word.toList :: after ∧
      placeholder ∈ word.toList ∧ ∀ letters, .word letters ∈ before → placeholder ∉ letters := by
  have marked {p : Piece} : p.word?.any (·.contains placeholder) = true ↔
      ∃ letters, p = .word letters ∧ placeholder ∈ letters := by
    cases p <;> simp [Piece.word?]
  rw [reservedWord?_eq, List.find?_filterMap]
  constructor
  · intro found
    obtain ⟨letters, written, rfl⟩ := Option.map_eq_some_iff.1 found
    obtain ⟨p, first, isWord⟩ := Option.bind_eq_some_iff.1 written
    obtain ⟨holds, before, after, cut, free⟩ := List.find?_eq_some_iff_append.1 first
    obtain ⟨_, rfl, inside⟩ := marked.1 holds
    cases isWord
    rw [String.toList_ofList]
    refine ⟨before, after, cut, inside, fun letters member holds => ?_⟩
    have unmarked := free _ member
    rw [marked.2 ⟨letters, rfl, holds⟩] at unmarked
    contradiction
  · rintro ⟨before, after, cut, inside, free⟩
    have first : (pieces text.toList).find? (·.word?.any (·.contains placeholder)) =
        some (.word word.toList) := by
      refine List.find?_eq_some_iff_append.2
        ⟨marked.2 ⟨_, rfl, inside⟩, before, after, cut, fun p member => ?_⟩
      rw [Bool.not_eq_true', Bool.eq_false_iff]
      intro holds
      obtain ⟨letters, rfl, inside⟩ := marked.1 holds
      exact free letters member inside
    rw [first, Option.bind_some, Piece.word?, Option.map_some, String.ofList_toList]

theorem isWordChar_placeholder : isWordChar placeholder = true := by decide

theorem reservedWord?_eq_none_iff {text : String} :
    reservedWord? text = none ↔ placeholder ∉ text.toList := by
  rw [reservedWord?_eq, Option.map_eq_none_iff, List.find?_eq_none]
  constructor
  · intro unmarked member
    rw [← flatMap_chars_pieces text.toList] at member
    obtain ⟨p, listed, inside⟩ := List.mem_flatMap.1 member
    cases p with
    | word letters =>
      exact unmarked letters (List.mem_filterMap.2 ⟨_, listed, rfl⟩)
        (List.contains_iff_mem.2 inside)
    | gap c =>
      have other := (splits_pieces text.toList).other_of_mem listed
      rw [← List.mem_singleton.1 inside, isWordChar_placeholder] at other
      contradiction
  · intro free letters member marked
    obtain ⟨p, listed, isWord⟩ := List.mem_filterMap.1 member
    cases p <;> cases isWord
    exact free (mem_of_mem_pieces listed (List.contains_iff_mem.1 marked))

end StateIntern.Text
