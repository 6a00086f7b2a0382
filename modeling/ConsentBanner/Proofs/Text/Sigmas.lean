import ConsentBanner.Filter
import Mathlib.Data.List.Count

/-!
# Occurrences in lower case

A text filter compares texts in lower case.  Each character goes to the same characters wherever it stands, but for
the capital sigma, which is lowered by what stands around it.  So a piece of a text is lowered in the text as it is by
itself if each sigma of it ends a word in both or in neither (`Text.lowerWithin_eq_iff`).

That is so in every text exactly if each sigma of the piece is settled: the search for letters around it comes to an
end within the piece.  A filter finds all occurrences of such a needle, and misses some occurrence of any other one
(`TextFilter.accepts_occurrence`).
-/

set_option autoImplicit false

namespace ConsentBanner

namespace Text

/-! ## Pieces of texts -/

/-- A sigma ends a word, given what stands before it in reverse and what stands behind it. -/
def endsWord (before behind : List Char) : Bool := meetsCased before && !meetsCased behind

/-- What a character goes to, given what stands before it in reverse and what stands behind it. -/
def lowerAt (before : List Char) (c : Char) (behind : List Char) : List Char :=
  if c = 'Σ' then [if endsWord before behind then 'ς' else 'σ']
  else if c = 'İ' then ['i', Char.ofNat 0x307]
  else [lowerChar c]

/-- Lowercases a piece of a text, given what stands before it in reverse and what stands behind it. -/
def lowerWithin : List Char → List Char → List Char → List Char
  | _, [], _ => []
  | before, c :: rest, behind => lowerAt before c (rest ++ behind) ++ lowerWithin (c :: before) rest behind

theorem lowerAfter_cons (before : List Char) (c : Char) (rest : List Char) :
    lowerAfter before (c :: rest) = lowerAt before c rest ++ lowerAfter (c :: before) rest := rfl

theorem lowerAfter_append (before piece behind : List Char) :
    lowerAfter before (piece ++ behind) =
      lowerWithin before piece behind ++ lowerAfter (piece.reverse ++ before) behind := by
  induction piece generalizing before with
  | nil => rfl
  | cons c rest ih => simp [lowerAfter_cons, lowerWithin, ih]

/-- A piece by itself is one with nothing behind it. -/
theorem lowerWithin_nil (before piece : List Char) : lowerWithin before piece [] = lowerAfter before piece := by
  simpa [lowerAfter] using (lowerAfter_append before piece []).symm

/-- A lowered text is made of what comes of its pieces. -/
theorem lowerAfter_around (before piece behind : List Char) :
    lowerAfter [] (before ++ piece ++ behind) =
      lowerWithin [] before (piece ++ behind) ++ lowerWithin before.reverse piece behind ++
        lowerAfter (piece.reverse ++ before.reverse) behind := by
  rw [List.append_assoc, lowerAfter_append, lowerAfter_append, List.append_nil, List.append_assoc]

/-! ## Two surroundings -/

/-- Something holds of each sigma of a piece, given what stands around it in the piece, first what stands before it in
reverse. -/
def EachSigma (holds : List Char → List Char → Prop) : List Char → List Char → Prop
  | _, [] => True
  | seen, c :: rest => (c = 'Σ' → holds seen rest) ∧ EachSigma holds (c :: seen) rest

instance decidableEachSigma (holds : List Char → List Char → Prop) [∀ seen rest, Decidable (holds seen rest)] :
    ∀ seen piece, Decidable (EachSigma holds seen piece)
  | _, [] => inferInstanceAs (Decidable True)
  | seen, c :: rest =>
    have := decidableEachSigma holds (c :: seen) rest
    inferInstanceAs (Decidable ((c = 'Σ' → holds seen rest) ∧ EachSigma holds (c :: seen) rest))

theorem EachSigma.mono {holds more : List Char → List Char → Prop} {piece : List Char}
    (grows : ∀ seen rest, holds seen rest → more seen rest) :
    ∀ {seen : List Char}, EachSigma holds seen piece → EachSigma more seen piece := by
  induction piece with
  | nil => exact fun _ => trivial
  | cons c rest ih => exact fun each => ⟨fun sigma => grows _ _ (each.1 sigma), ih each.2⟩

theorem eachSigma_of_forall {holds : List Char → List Char → Prop} (always : ∀ seen rest, holds seen rest)
    (piece : List Char) : ∀ seen : List Char, EachSigma holds seen piece := by
  induction piece with
  | nil => exact fun _ => trivial
  | cons c rest ih => exact fun seen => ⟨fun _ => always seen rest, ih _⟩

/-- Where there is no sigma, anything holds of each. -/
theorem eachSigma_of_none {holds : List Char → List Char → Prop} {piece : List Char} (none : 'Σ' ∉ piece) :
    ∀ seen : List Char, EachSigma holds seen piece := by
  induction piece with
  | nil => exact fun _ => trivial
  | cons c rest ih =>
      intro seen
      exact ⟨fun sigma => absurd (sigma ▸ List.mem_cons_self) none, ih (fun later => none (.tail c later)) _⟩

theorem EachSigma.and {holds further : List Char → List Char → Prop} {piece : List Char} : ∀ {seen : List Char},
    EachSigma holds seen piece → EachSigma further seen piece →
      EachSigma (fun seen rest => holds seen rest ∧ further seen rest) seen piece := by
  induction piece with
  | nil => exact fun _ _ => trivial
  | cons c rest ih =>
      exact fun each others => ⟨fun sigma => ⟨each.1 sigma, others.1 sigma⟩, ih each.2 others.2⟩

theorem length_lowerAt (c : Char) (before behind other further : List Char) :
    (lowerAt before c behind).length = (lowerAt other c further).length := by
  unfold lowerAt
  split
  · rfl
  · split <;> rfl

theorem lowerAt_eq_iff {c : Char} {before behind other further : List Char} :
    lowerAt before c behind = lowerAt other c further ↔
      (c = 'Σ' → endsWord before behind = endsWord other further) := by
  by_cases sigma : c = 'Σ'
  · simp only [lowerAt, sigma, if_true, List.cons.injEq, and_true, true_imp_iff]
    cases endsWord before behind <;> cases endsWord other further <;> decide
  · simp [lowerAt, sigma]

/-- A piece is lowered in the same way in a text and by itself exactly if each of its sigmas ends a word in both or in
neither. -/
theorem lowerWithin_eq_iff {before piece behind : List Char} : ∀ {seen : List Char},
    lowerWithin (seen ++ before) piece behind = lowerWithin seen piece [] ↔
      EachSigma (fun seen rest => endsWord (seen ++ before) (rest ++ behind) = endsWord seen rest) seen piece := by
  induction piece with
  | nil => exact fun {_} => iff_of_true rfl trivial
  | cons c rest ih =>
      intro seen
      have first := @lowerAt_eq_iff c (seen ++ before) (rest ++ behind) seen rest
      rw [lowerWithin, lowerWithin, EachSigma, List.append_nil, ← first, ← ih, List.cons_append]
      constructor
      · exact fun same => List.append_inj same (length_lowerAt c _ _ _ _)
      · rintro ⟨head, tail⟩
        rw [head, tail]

/-- Where sigmas only come to end words, a piece comes out the same, or with more final sigmas and fewer others. -/
theorem lowerWithin_eq_or_count_lt {before behind other further piece : List Char} : ∀ {seen : List Char},
    EachSigma (fun seen rest => endsWord (seen ++ before) (rest ++ behind) = true →
      endsWord (seen ++ other) (rest ++ further) = true) seen piece →
    lowerWithin (seen ++ before) piece behind = lowerWithin (seen ++ other) piece further ∨
      (lowerWithin (seen ++ before) piece behind).count 'ς' < (lowerWithin (seen ++ other) piece further).count 'ς' ∧
        (lowerWithin (seen ++ other) piece further).count 'σ' <
          (lowerWithin (seen ++ before) piece behind).count 'σ' := by
  induction piece with
  | nil => exact fun {_} _ => .inl rfl
  | cons c rest ih =>
      intro seen each
      have others := ih each.2
      simp only [lowerWithin, ← List.cons_append, List.count_append]
      by_cases same : c = 'Σ' →
          endsWord (seen ++ before) (rest ++ behind) = endsWord (seen ++ other) (rest ++ further)
      · rw [lowerAt_eq_iff.mpr same]
        rcases others with same | fewer
        · exact .inl (by rw [same])
        · exact .inr (by omega)
      · obtain ⟨sigma, apart⟩ := Classical.not_imp.mp same
        have comes : lowerAt (seen ++ before) c (rest ++ behind) = ['σ'] ∧
            lowerAt (seen ++ other) c (rest ++ further) = ['ς'] := by
          have ends := each.1 sigma
          simp only [lowerAt, sigma, if_true]
          cases h : endsWord (seen ++ before) (rest ++ behind) <;>
            cases h' : endsWord (seen ++ other) (rest ++ further) <;> simp_all
        have counts : List.count 'σ' ['σ'] = 1 ∧ List.count 'σ' ['ς'] = 0 ∧ List.count 'ς' ['ς'] = 1 ∧
            List.count 'ς' ['σ'] = 0 := by decide
        rw [comes.1, comes.2]
        rcases others with same | fewer
        · rw [same]
          exact .inr (by omega)
        · exact .inr (by omega)

/-- A piece comes out the same if it has no fewer final sigmas already, or no more others. -/
theorem lowerWithin_eq_of_count_le {before behind other further piece seen : List Char}
    (ends : EachSigma (fun seen rest => endsWord (seen ++ before) (rest ++ behind) = true →
      endsWord (seen ++ other) (rest ++ further) = true) seen piece)
    (counts : (lowerWithin (seen ++ other) piece further).count 'ς' ≤
        (lowerWithin (seen ++ before) piece behind).count 'ς' ∨
      (lowerWithin (seen ++ before) piece behind).count 'σ' ≤
        (lowerWithin (seen ++ other) piece further).count 'σ') :
    lowerWithin (seen ++ before) piece behind = lowerWithin (seen ++ other) piece further :=
  (lowerWithin_eq_or_count_lt ends).resolve_right fun fewer => by omega

/-! ## Settled sigmas -/

/-- Whether the first character that is not case-ignorable is cased, where there is one. -/
def nearest (text : List Char) : Option Bool := (text.dropWhile isCaseIgnorable).head?.map isCased

theorem meetsCased_eq (text : List Char) : meetsCased text = (nearest text == some true) := by
  unfold meetsCased nearest
  cases text.dropWhile isCaseIgnorable with
  | nil => rfl
  | cons c _ => cases h : isCased c <;> simp [h]

theorem endsWord_eq (before behind : List Char) :
    endsWord before behind = (nearest before == some true && nearest behind != some true) := by
  simp [endsWord, meetsCased_eq, bne]

theorem nearest_append (near far : List Char) : nearest (near ++ far) = (nearest near).or (nearest far) := by
  unfold nearest
  rw [List.dropWhile_append]
  cases near.dropWhile isCaseIgnorable <;> simp

/-- Whether a sigma ends a word is known from what a piece has around it, first what it has before it in reverse. -/
def Settles (seen rest : List Char) : Prop :=
  nearest seen = some false ∨ nearest rest = some true ∨ nearest seen = some true ∧ nearest rest = some false
  deriving Decidable

theorem Settles.endsWord_eq {seen rest : List Char} (settles : Settles seen rest) (before behind : List Char) :
    endsWord (seen ++ before) (rest ++ behind) = endsWord seen rest := by
  simp only [Text.endsWord_eq, nearest_append]
  rcases settles with no | yes | ⟨yes, no⟩ <;> simp [*]

/-- A single capital letter. -/
def letter : List Char := ['Α']

theorem nearest_letter : nearest letter = some true := by decide +kernel

theorem settles_of_letters {seen rest : List Char} (before : endsWord (seen ++ letter) rest = endsWord seen rest)
    (behind : endsWord seen (rest ++ letter) = endsWord seen rest) : Settles seen rest := by
  simp only [endsWord_eq, nearest_append, nearest_letter] at before behind
  unfold Settles
  cases h : nearest seen with
  | none => cases h' : nearest rest <;> simp_all
  | some cased => cases cased <;> cases h' : nearest rest <;> simp_all

/-- A letter before a piece lets its sigmas end words, and one behind it keeps them from it. -/
theorem endsWord_letter (seen rest : List Char) :
    (endsWord seen rest = true → endsWord (seen ++ letter) rest = true) ∧
    (endsWord seen (rest ++ letter) = true → endsWord seen rest = true) := by
  simp only [endsWord_eq, nearest_append, nearest_letter]
  cases nearest seen <;> cases nearest rest <;> simp

/-- Each sigma of a piece ends a word within these surroundings exactly if it does so without them. -/
def LowersAlike (before piece behind : String) : Prop :=
  EachSigma (fun seen rest =>
    endsWord (seen ++ before.toList.reverse) (rest ++ behind.toList) = endsWord seen rest) [] piece.toList
  deriving Decidable

def IsSettled (piece : String) : Prop := EachSigma Settles [] piece.toList
  deriving Decidable

theorem IsSettled.lowersAlike {piece : String} (settled : IsSettled piece) (before behind : String) :
    LowersAlike before piece behind :=
  settled.mono fun _ _ settles => settles.endsWord_eq _ _

/-- A piece that is lowered in a text as by itself occurs in it in lower case too. -/
theorem LowersAlike.contains_lower {before piece behind : String} (alike : LowersAlike before piece behind) :
    contains (lower (before ++ piece ++ behind)) (lower piece) = true := by
  have same := lowerWithin_eq_iff.mpr alike
  rw [List.nil_append, lowerWithin_nil] at same
  simp only [contains, lower, containsChars_iff_isInfix, String.toList_ofList, String.toList_append]
  rw [lowerAfter_around, same]
  exact ⟨_, _, rfl⟩

theorem reverse_letter : letter.reverse = letter := rfl

theorem lowerWithin_letter (before behind : List Char) : lowerWithin before letter behind = ['α'] := by
  have lowered : lowerChar 'Α' = 'α' := by decide +kernel
  simp [lowerWithin, letter, lowerAt, lowered]

/-- A piece that is found in lower case after a letter as well as before one is settled: a letter before it can only
take sigmas from it that end no word, and one behind it only those that do. -/
theorem isSettled_of_letters {piece : String}
    (after : contains (lower (String.ofList letter ++ piece)) (lower piece) = true)
    (before : contains (lower (piece ++ String.ofList letter)) (lower piece) = true) : IsSettled piece := by
  simp only [contains, lower, containsChars_iff_isInfix, String.toList_ofList, String.toList_append] at after before
  rw [lowerAfter_append, lowerWithin_letter, List.append_nil, reverse_letter, ← lowerWithin_nil,
    ← lowerWithin_nil] at after
  rw [lowerAfter_append, ← lowerWithin_nil (piece.toList.reverse ++ []), lowerWithin_letter,
    ← lowerWithin_nil] at before
  have alone : lowerWithin [] piece.toList [] = lowerWithin letter piece.toList [] := by
    have ends : EachSigma (fun seen rest => endsWord (seen ++ []) (rest ++ []) = true →
        endsWord (seen ++ letter) (rest ++ []) = true) [] piece.toList :=
      eachSigma_of_forall (fun seen rest => by simpa using (endsWord_letter seen rest).1) _ _
    exact lowerWithin_eq_of_count_le ends (.inr (by simpa using after.sublist.count_le 'σ'))
  have within : lowerWithin [] piece.toList letter = lowerWithin [] piece.toList [] := by
    have ends : EachSigma (fun seen rest => endsWord (seen ++ []) (rest ++ letter) = true →
        endsWord (seen ++ []) (rest ++ []) = true) [] piece.toList :=
      eachSigma_of_forall (fun seen rest => by simpa using (endsWord_letter seen rest).2) _ _
    exact lowerWithin_eq_of_count_le ends (.inl (by simpa using before.sublist.count_le 'ς'))
  have first := (@lowerWithin_eq_iff letter _ [] []).mp alone.symm
  have second := (@lowerWithin_eq_iff [] _ letter []).mp within
  refine (first.and second).mono fun seen rest same => ?_
  rw [List.append_nil, List.append_nil] at same
  exact settles_of_letters same.1 same.2

end Text

namespace TextFilter

def needles : TextFilter → List String
  | one needle => [needle]
  | anyOf needles => needles

theorem accepts_iff {filter : TextFilter} {text : String} : filter.accepts text = true ↔
    ∃ needle ∈ filter.needles, Text.contains (Text.lower text) (Text.lower needle) = true := by
  cases filter <;> simp [accepts, needles]

theorem accepts_of_lowersAlike {before needle behind : String} (alike : Text.LowersAlike before needle behind)
    {filter : TextFilter} (wanted : needle ∈ filter.needles) : filter.accepts (before ++ needle ++ behind) = true :=
  accepts_iff.mpr ⟨needle, wanted, alike.contains_lower⟩

/-- A filter finds an occurrence of a needle wherever the sigmas of the needle are lowered as they are by themselves.
It finds all occurrences exactly if the needle settles them, as does one that has none. -/
theorem accepts_occurrence (needle : String) :
    (∀ before behind, Text.LowersAlike before needle behind →
      ∀ filter : TextFilter, needle ∈ filter.needles → filter.accepts (before ++ needle ++ behind) = true) ∧
    (Text.IsSettled needle ↔ ∀ text, Text.contains text needle = true →
      ∀ filter : TextFilter, needle ∈ filter.needles → filter.accepts text = true) ∧
    ('Σ' ∉ needle.toList → Text.IsSettled needle) := by
  refine ⟨fun _ _ alike _ => accepts_of_lowersAlike alike,
    ⟨fun settled text occurs filter wanted => ?_, fun finds => ?_⟩, fun none => Text.eachSigma_of_none none []⟩
  · obtain ⟨before, behind, whole⟩ := (Text.containsChars_iff_isInfix _ _).mp occurs
    have split : text = String.ofList before ++ needle ++ String.ofList behind :=
      String.toList_injective (by simp [whole])
    rw [split]
    exact accepts_of_lowersAlike (settled.lowersAlike _ _) wanted
  · -- Looked for alone, the needle is found after a letter as well as before one.
    have lowered : ∀ before behind : String,
        Text.contains (Text.lower (before ++ needle ++ behind)) (Text.lower needle) = true := fun before behind => by
      have occurs : Text.contains (before ++ needle ++ behind) needle = true :=
        (Text.containsChars_iff_isInfix _ _).mpr ⟨before.toList, behind.toList, by simp⟩
      obtain ⟨_, same, contained⟩ := accepts_iff.mp (finds _ occurs (.one needle) (List.mem_singleton_self _))
      rwa [List.mem_singleton.mp same] at contained
    have after := lowered (String.ofList Text.letter) ""
    have before := lowered "" (String.ofList Text.letter)
    rw [String.append_empty] at after
    rw [String.empty_append] at before
    exact Text.isSettled_of_letters after before

/-- A needle is found in the middle of a sentence, where its sigma ends a word. -/
theorem accepts_word_in_sentence :
    Text.LowersAlike "ΟΛΑ ΤΑ " "COOKIES ΤΗΣ ΣΕΛΙΔΑΣ" " ΜΑΣ" ∧
      (anyOf ["reject", "COOKIES ΤΗΣ ΣΕΛΙΔΑΣ"]).accepts ("ΟΛΑ ΤΑ " ++ "COOKIES ΤΗΣ ΣΕΛΙΔΑΣ" ++ " ΜΑΣ") = true :=
  ⟨by decide +kernel, (accepts_occurrence "COOKIES ΤΗΣ ΣΕΛΙΔΑΣ").1 _ _ (by decide +kernel) _ (by decide)⟩

/-- A word cut off behind a sigma is not found in the whole word. -/
theorem accepts_misses_beginning :
    Text.contains "ΑΣΑ" "ΑΣ" = true ∧ (one "ΑΣ").accepts "ΑΣΑ" = false ∧
      (anyOf ["ΑΣ"]).accepts "ΑΣΑ" = false := by
  decide +kernel

end TextFilter

end ConsentBanner
