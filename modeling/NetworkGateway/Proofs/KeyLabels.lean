import Mathlib.Data.List.Induction
import Mathlib.Data.List.Infix
import NetworkGateway.Proofs.BearerRedaction

/-! The labels of private keys, before and after the credentials of a text are masked. -/

namespace NetworkGateway.Store

open Library.Scan Secrets

/-! Labels. -/

/-- `-----BEGIN ` or `-----END `. -/
def opening (kind : String) : List Char := ("-----" ++ kind ++ " ").toList

abbrev dashes : List Char := "-----".toList
abbrev privateKey : List Char := "PRIVATE KEY".toList

theorem pemLabel_ok {kind : String} {input : List Char} {n : Nat} (found : pemLabel kind input = some n) :
    ∃ label rest, input = opening kind ++ (label ++ (dashes ++ rest)) ∧ '-' ∉ label ∧ privateKey <:+ label ∧
      n = (opening kind).length + label.length + 5 := by
  unfold pemLabel at found
  dsimp only at found
  split at found
  · rename_i opened
    split at found
    · rename_i ends
      rw [Bool.and_eq_true, List.isSuffixOf_iff_suffix, List.isPrefixOf_iff_prefix] at ends
      rcases List.isPrefixOf_iff_prefix.mp opened with ⟨tail, split⟩
      have dropped : input.drop ("-----" ++ kind ++ " ").toList.length = tail := by
        rw [← split, List.drop_left]
      rw [dropped] at ends found
      rcases ends.2 with ⟨rest, closing⟩
      refine ⟨tail.takeWhile (· != '-'), rest, ?_, ?_, ends.1, (Option.some.inj found).symm⟩
      · rw [closing, List.takeWhile_append_dropWhile]
        exact split.symm
      · intro member
        have kept := List.mem_takeWhile_imp member
        simp at kept
    · cases found
  · cases found

theorem pemLabel_of {kind : String} {label rest : List Char} (plain : '-' ∉ label) (ends : privateKey <:+ label) :
    pemLabel kind (opening kind ++ (label ++ (dashes ++ rest))) = some ((opening kind).length + label.length + 5) := by
  have kept : ∀ c ∈ label, (c != '-') = true := by
    intro c member
    rw [bne_iff_ne]
    intro same
    exact plain (same ▸ member)
  have stops : ∀ c, (dashes ++ rest).head? = some c → (c != '-') = false := by
    intro c first
    have same : c = '-' := (Option.some.inj first).symm
    rw [same]
    rfl
  have opened : ("-----" ++ kind ++ " ").toList.isPrefixOf (opening kind ++ (label ++ (dashes ++ rest))) = true :=
    List.isPrefixOf_iff_prefix.mpr (List.prefix_append _ _)
  have dropped : (opening kind ++ (label ++ (dashes ++ rest))).drop ("-----" ++ kind ++ " ").toList.length =
      label ++ (dashes ++ rest) := List.drop_left
  have taken : (label ++ (dashes ++ rest)).takeWhile (· != '-') = label := takeWhile_append_stop kept stops
  have left : (label ++ (dashes ++ rest)).dropWhile (· != '-') = dashes ++ rest := by
    have whole := List.takeWhile_append_dropWhile (p := (· != '-')) (l := label ++ (dashes ++ rest))
    rw [taken] at whole
    exact List.append_cancel_left whole
  have closes : (privateKey.isSuffixOf label && dashes.isPrefixOf (dashes ++ rest)) = true := by
    rw [Bool.and_eq_true, List.isSuffixOf_iff_suffix, List.isPrefixOf_iff_prefix]
    exact ⟨ends, List.prefix_append _ _⟩
  unfold pemLabel
  dsimp only
  rw [if_pos opened, dropped, taken, left, if_pos closes]
  rfl

theorem pemLabel_head {kind : String} {c : Char} {rest : List Char} (other : c ≠ '-') :
    pemLabel kind (c :: rest) = none := by
  cases found : pemLabel kind (c :: rest) with
  | none => rfl
  | some n =>
      rcases pemLabel_ok found with ⟨label, tail, split, -, -, -⟩
      have first : (opening kind).head? = some '-' := by
        unfold opening
        rw [String.toList_append, String.toList_append]
        rfl
      have same : (c :: rest).head? = some '-' := by
        rw [split, List.head?_append, first]
        rfl
      exact absurd (Option.some.inj same) other

/-! The first pass over the characters of a text. -/

abbrev mask (input : List Char) : List Char := subst bearer bearerMarker input

theorem mask_word {word : List Char} (apart : ∀ tail, tail <:+ word → tail ≠ [] → ¬tail <+: bearerMarker ∧ ¬bearerMarker <+: tail)
    {input : List Char} (spelled : word <+: mask input) :
    ∃ rest, input = word ++ rest ∧ pieces bearer input = word.map .copied ++ pieces bearer rest := by
  induction word generalizing input with
  | nil => exact ⟨input, rfl, rfl⟩
  | cons c word ih =>
      cases input with
      | nil =>
          rw [mask, subst_nil] at spelled
          simp at spelled
      | cons d tail =>
          rcases passes_or_matches bearer (d :: tail) with passes | ⟨n, found⟩
          · rw [mask, subst_copied _ passes] at spelled
            have parts := List.cons_prefix_cons.mp spelled
            have later := ih (fun t within => apart t (within.trans (List.suffix_cons c word))) parts.2
            rcases later with ⟨rest, same, scanned⟩
            refine ⟨rest, by rw [same, parts.1]; rfl, ?_⟩
            rw [pieces_copied passes, scanned, parts.1]
            rfl
          · rw [mask, subst_matched _ found] at spelled
            have whole := apart (c :: word) (List.suffix_refl _) (List.cons_ne_nil c word)
            rcases List.prefix_or_prefix_of_prefix spelled (List.prefix_append bearerMarker _) with short | long
            · exact absurd short whole.1
            · exact absurd long whole.2

theorem passes_spelled {word rest : List Char}
    (other : ((word.take 6).map Text.foldCase).isPrefixOf "bearer".toList = false) : Passes bearer (word ++ rest) := by
  intro n found
  rcases bearer_ok found with ⟨scheme, spaces, credential, parts, introduces, -⟩
  have long : scheme <+: word ++ rest := by
    have first : scheme <+: scheme ++ spaces ++ credential := by
      rw [List.append_assoc]
      exact List.prefix_append _ _
    rw [← parts] at first
    exact first.trans (List.take_prefix _ _)
  have taken : (word ++ rest).take 6 = scheme := by
    rw [← introduces.length]
    exact (List.prefix_iff_eq_take.mp long).symm
  have within : word.take 6 <+: scheme := by
    rw [← taken, List.take_append]
    exact List.prefix_append _ _
  have mapped := within.map Text.foldCase
  rw [introduces.scheme, ← List.isPrefixOf_iff_prefix, other] at mapped
  cases mapped

/-- Neither the scheme nor the inserted text shares its letters with a part of the word. -/
def Foreign (word : List Char) : Prop :=
  (word.tails.all fun tail => tail.isEmpty ||
    (!tail.isPrefixOf bearerMarker && !bearerMarker.isPrefixOf tail &&
      !((tail.take 6).map Text.foldCase).isPrefixOf "bearer".toList)) = true

theorem Foreign.tail {word : List Char} (foreign : Foreign word) {tail : List Char} (within : tail <:+ word)
    (nonempty : tail ≠ []) :
    (¬tail <+: bearerMarker ∧ ¬bearerMarker <+: tail) ∧
      ((tail.take 6).map Text.foldCase).isPrefixOf "bearer".toList = false := by
  have checked := List.all_eq_true.mp foreign tail ((List.mem_tails _ _).mpr within)
  simp only [Bool.or_eq_true, Bool.and_eq_true, Bool.not_eq_true', List.isEmpty_iff] at checked
  rcases checked with empty | ⟨⟨first, second⟩, third⟩
  · exact absurd empty nonempty
  · refine ⟨⟨?_, ?_⟩, third⟩
    · rw [← List.isPrefixOf_iff_prefix, first]
      exact Bool.false_ne_true
    · rw [← List.isPrefixOf_iff_prefix, second]
      exact Bool.false_ne_true

theorem Foreign.mask_word {word : List Char} (foreign : Foreign word) {input : List Char} (spelled : word <+: mask input) :
    ∃ rest, input = word ++ rest ∧ pieces bearer input = word.map .copied ++ pieces bearer rest :=
  Store.mask_word (fun _ within nonempty => (foreign.tail within nonempty).1) spelled

theorem Foreign.pieces_word {word : List Char} (foreign : Foreign word) (rest : List Char) :
    pieces bearer (word ++ rest) = word.map .copied ++ pieces bearer rest :=
  pieces_run (fun _ within nonempty => passes_spelled (foreign.tail within nonempty).2)

def labelKinds : List String := ["BEGIN", "END"]

theorem opening_foreign {kind : String} (listed : kind ∈ labelKinds) : Foreign (opening kind) := by
  simp only [labelKinds, List.mem_cons, List.not_mem_nil, or_false] at listed
  rcases listed with rfl | rfl
  · unfold Foreign
    decide
  · unfold Foreign
    decide

theorem dashes_foreign : Foreign dashes := by
  unfold Foreign
  decide

/-! Pieces of a scan, before and after the first pass. -/

abbrev given (found : List (Piece Char)) : List Char := found.flatMap Piece.source
abbrev masked (found : List (Piece Char)) : List Char := found.flatMap (Piece.output bearerMarker)

theorem given_append (first second : List (Piece Char)) : given (first ++ second) = given first ++ given second :=
  List.flatMap_append

theorem masked_append (first second : List (Piece Char)) : masked (first ++ second) = masked first ++ masked second :=
  List.flatMap_append

theorem given_copied (word : List Char) : given (word.map .copied) = word := source_copied word

theorem masked_copied (word : List Char) : masked (word.map .copied) = word := output_copied bearerMarker word

theorem mask_cut {input rest : List Char} {found : List (Piece Char)}
    (cut : pieces bearer input = found ++ pieces bearer rest) : mask input = masked found ++ mask rest :=
  subst_cut bearerMarker cut

theorem given_cut {input rest : List Char} {found : List (Piece Char)}
    (cut : pieces bearer input = found ++ pieces bearer rest) : input = given found ++ rest := by
  have whole := pieces_source bearer input
  rw [cut, List.flatMap_append, pieces_source] at whole
  exact whole.symm

theorem masked_plain {found : List (Piece Char)} (plain : '-' ∉ given found) : '-' ∉ masked found := by
  intro dash
  rcases List.mem_flatMap.mp dash with ⟨piece, listed, output⟩
  cases piece with
  | copied c => exact plain (List.mem_flatMap.mpr ⟨_, listed, output⟩)
  | matched run =>
      have inMarker : '-' ∈ bearerMarker := output
      exact absurd inMarker (by decide)

theorem masked_unmarked {found : List (Piece Char)} (unmarked : ']' ∉ masked found) : masked found = given found := by
  induction found with
  | nil => rfl
  | cons piece rest ih =>
      cases piece with
      | copied c =>
          have later : masked rest = given rest := by
            apply ih
            intro bracket
            exact unmarked (List.mem_cons_of_mem c bracket)
          exact congrArg (c :: ·) later
      | matched run =>
          have bracket : ']' ∈ bearerMarker := by decide
          exact absurd (List.mem_append_left _ bracket) unmarked

theorem suffix_append_cases {α : Type} {tail first second : List α} (within : tail <:+ first ++ second) :
    tail <:+ second ∨ ∃ front, front ≠ [] ∧ front <:+ first ∧ tail = front ++ second := by
  rcases within with ⟨before, same⟩
  rcases List.append_eq_append_iff.mp same with ⟨middle, longer, shorter⟩ | ⟨middle, longer, shorter⟩
  · by_cases empty : middle = []
    · rw [empty] at shorter
      exact .inl (by rw [shorter]; exact List.suffix_refl _)
    · exact .inr ⟨middle, empty, ⟨before, longer.symm⟩, shorter⟩
  · exact .inl ⟨middle, shorter.symm⟩

theorem suffix_of_masked {tail : List Char} (unmarked : ']' ∉ tail) {found : List (Piece Char)}
    (ends : tail <:+ masked found) : tail <:+ given found := by
  induction found with
  | nil => exact ends
  | cons piece rest ih =>
      have cut : masked (piece :: rest) = piece.output bearerMarker ++ masked rest := List.flatMap_cons
      have source : given (piece :: rest) = piece.source ++ given rest := List.flatMap_cons
      rw [cut] at ends
      rw [source]
      rcases suffix_append_cases ends with short | ⟨front, nonempty, within, whole⟩
      · exact (ih short).trans (List.suffix_append _ _)
      · cases piece with
        | copied c =>
            have plain : masked rest = given rest := by
              apply masked_unmarked
              intro bracket
              exact unmarked (whole ▸ List.mem_append_right front bracket)
            rw [whole, plain]
            rcases within with ⟨more, same⟩
            exact ⟨more, by rw [← List.append_assoc, same]; rfl⟩
        | matched run =>
            have last : front.getLast? = some ']' := by
              rcases within with ⟨more, same⟩
              have ends : bearerMarker.getLast? = some ']' := by decide
              have marker : Piece.output bearerMarker (.matched run) = bearerMarker := rfl
              rw [marker] at same
              rw [← same, List.getLast?_append_of_ne_nil more nonempty] at ends
              exact ends
            have bracket : ']' ∈ front := List.mem_of_getLast? last
            exact absurd (whole ▸ List.mem_append_left _ bracket) unmarked

/-! Texts in which the first pass neither breaks nor makes a label. -/

def labelWords : List (List Char) := [opening "BEGIN", opening "END", privateKey ++ dashes]

/-- No match of `_BEARER_RE` holds the start of a label's fixed text, and none that holds a dash
follows an opening with no dash in between. -/
def Undisturbed (input : List Char) : Prop :=
  ∀ before run after, pieces bearer input = before ++ .matched run :: after →
    (∀ word ∈ labelWords, ∀ front tail, run = front ++ tail → tail ≠ [] → ¬word <+: tail ++ given after) ∧
    ('-' ∈ run → ∀ kind ∈ labelKinds, ∀ front between, given before = front ++ (opening kind ++ between) → '-' ∈ between)

theorem Undisturbed.rest {input tail : List Char} (safe : Undisturbed input) {first : List (Piece Char)}
    (cut : pieces bearer input = first ++ pieces bearer tail) : Undisturbed tail := by
  intro before run after split
  have whole : pieces bearer input = (first ++ before) ++ .matched run :: after := by
    rw [cut, split, List.append_assoc]
  have held := safe _ _ _ whole
  refine ⟨held.1, ?_⟩
  intro dash kind listed front between same
  apply held.2 dash kind listed (given first ++ front) between
  rw [given_append, same, List.append_assoc]

/-- After an opening, what the first pass matches before the next dash holds none. -/
theorem plain_region {kind : String} (listed : kind ∈ labelKinds) {tail : List Char}
    (safe : Undisturbed (opening kind ++ tail)) {found : List (Piece Char)} {rest : List Char}
    (cut : pieces bearer tail = found ++ pieces bearer rest) (plain : '-' ∉ masked found) : '-' ∉ given found := by
  have upTo : ∀ first second, found = first ++ second → '-' ∉ given first := by
    intro first
    induction first using List.reverseRecOn with
    | nil => exact fun _ _ dash => absurd dash List.not_mem_nil
    | append_singleton first piece ih =>
        intro second split
        have earlier := ih (piece :: second) (by rw [split, List.append_assoc]; rfl)
        rw [given, List.flatMap_append, List.mem_append, not_or]
        refine ⟨earlier, ?_⟩
        intro dash
        rw [List.flatMap_singleton] at dash
        cases piece with
        | copied c =>
            apply plain
            rw [split, masked, List.flatMap_append, List.flatMap_append]
            exact List.mem_append_left _ (List.mem_append_right _ (by simpa [Piece.output, Piece.source] using dash))
        | matched run =>
            have whole : pieces bearer (opening kind ++ tail) =
                ((opening kind).map .copied ++ first) ++ .matched run :: (second ++ pieces bearer rest) := by
              rw [(opening_foreign listed).pieces_word, cut, split]
              simp
            have between := (safe _ _ _ whole).2 dash kind listed [] (given first)
            apply earlier
            apply between
            rw [given, List.flatMap_append, ← given, given_copied, List.nil_append]
  exact upTo found [] (List.append_nil found).symm

/-- A masked text up to its first dash is what the text up to its first copied dash was masked to. -/
theorem masked_region {input label rest : List Char} (plain : '-' ∉ label)
    (spelled : mask input = label ++ '-' :: rest) :
    ∃ found tail, pieces bearer input = found ++ pieces bearer tail ∧ masked found = label ∧
      mask tail = '-' :: rest := by
  induction input using scan_induction bearer generalizing label with
  | nil =>
      rw [mask, subst_nil] at spelled
      simp at spelled
  | copied c tail passes ih =>
      cases label with
      | nil => exact ⟨[], c :: tail, rfl, rfl, spelled⟩
      | cons d label =>
          rw [mask, subst_copied _ passes] at spelled
          have parts := List.cons.inj spelled
          rcases ih (fun member => plain (List.mem_cons_of_mem d member)) parts.2 with ⟨found, left, cut, same, later⟩
          refine ⟨.copied c :: found, left, by rw [pieces_copied passes, cut]; rfl, ?_, later⟩
          have whole : masked (.copied c :: found) = c :: masked found := rfl
          rw [whole, same, parts.1]
  | matched c tail n found ih =>
      rw [mask, subst_matched _ found] at spelled
      have longer : ∃ more, label = bearerMarker ++ more ∧ mask (tail.drop n) = more ++ '-' :: rest := by
        rcases List.append_eq_append_iff.mp spelled with ⟨more, whole, later⟩ | ⟨more, whole, later⟩
        · exact ⟨more, whole, later⟩
        · cases more with
          | nil =>
              rw [List.append_nil] at whole
              exact ⟨[], by rw [List.append_nil, whole], later.symm⟩
          | cons d more =>
              have dash : '-' ∈ bearerMarker := by
                rw [whole, ← (List.cons.inj later).1]
                simp
              exact absurd dash (by decide)
      rcases longer with ⟨more, same, later⟩
      have plainMore : '-' ∉ more := by
        intro member
        exact plain (same ▸ List.mem_append_right _ member)
      rcases ih plainMore later with ⟨held, left, cut, spelledMore, final⟩
      refine ⟨.matched (c :: tail.take n) :: held, left, by rw [pieces_matched found, cut]; rfl, ?_, final⟩
      have whole : masked (.matched (c :: tail.take n) :: held) = bearerMarker ++ masked held := rfl
      rw [whole, spelledMore, same]

theorem privateKey_unmarked : ']' ∉ privateKey := by decide

theorem label_of_mask {kind : String} (listed : kind ∈ labelKinds) {input : List Char} (safe : Undisturbed input)
    {n : Nat} (found : pemLabel kind (mask input) = some n) : (pemLabel kind input).isSome := by
  rcases pemLabel_ok found with ⟨label, rest, spelled, plain, ends, -⟩
  have opens : opening kind <+: mask input := by
    rw [spelled]
    exact List.prefix_append _ _
  rcases (opening_foreign listed).mask_word opens with ⟨tail, same, cut⟩
  have afterOpening : mask tail = label ++ (dashes ++ rest) := by
    have whole := mask_cut cut
    rw [spelled, masked_copied] at whole
    exact (List.append_cancel_left whole).symm
  have dashed : dashes ++ rest = '-' :: ("----".toList ++ rest) := rfl
  rw [dashed] at afterOpening
  rcases masked_region plain afterOpening with ⟨held, left, cutLabel, masking, closing⟩
  have closes : dashes <+: mask left := by
    rw [closing, ← dashed]
    exact List.prefix_append _ _
  rcases dashes_foreign.mask_word closes with ⟨final, sameLeft, -⟩
  have unlabelled : '-' ∉ given held := by
    rw [same] at safe
    exact plain_region listed safe cutLabel (masking ▸ plain)
  have ended : privateKey <:+ given held := suffix_of_masked privateKey_unmarked (masking ▸ ends)
  rw [same, given_cut cutLabel, sameLeft, pemLabel_of unlabelled ended]
  rfl

/-- A match begins with a letter no label ends in. -/
theorem matched_letter {input run : List Char} (matched : .matched run ∈ pieces bearer input) :
    ∃ c ∈ run, Text.foldCase c = 'b' := by
  rcases matched_split matched with ⟨-, after, n, -, found, taken⟩
  rcases bearer_ok found with ⟨scheme, spaces, credential, parts, introduces, -⟩
  cases scheme with
  | nil => exact absurd introduces.length (by decide)
  | cons c rest =>
      refine ⟨c, ?_, (List.cons.inj introduces.scheme).1⟩
      rw [taken, parts]
      simp

theorem given_of_copied {found : List (Piece Char)} (copied : ∀ run, .matched run ∉ found) : masked found = given found :=
  output_unmatched copied

/-- The end of a label survives the first pass. -/
theorem suffix_masked {input rest : List Char} (safe : Undisturbed input) (found : List (Piece Char))
    (cut : pieces bearer input = found ++ pieces bearer (dashes ++ rest)) (ends : privateKey <:+ given found) :
    privateKey <:+ masked found := by
  induction found generalizing input with
  | nil => exact ends
  | cons piece tail ih =>
      have source : given (piece :: tail) = piece.source ++ given tail := List.flatMap_cons
      have output : masked (piece :: tail) = piece.output bearerMarker ++ masked tail := List.flatMap_cons
      rw [source] at ends
      rw [output]
      have scanned : pieces bearer (given tail ++ (dashes ++ rest)) = tail ++ pieces bearer (dashes ++ rest) := by
        have whole : pieces bearer input = [piece] ++ (tail ++ pieces bearer (dashes ++ rest)) := cut
        have suffix := pieces_suffix whole
        rw [List.flatMap_append, pieces_source] at suffix
        exact suffix.symm
      have first : pieces bearer input = [piece] ++ pieces bearer (given tail ++ (dashes ++ rest)) := by
        rw [scanned]
        exact cut
      rcases suffix_append_cases ends with short | ⟨front, nonempty, within, whole⟩
      · exact (ih (safe.rest first) scanned short).trans (List.suffix_append _ _)
      · cases piece with
        | copied c =>
            have plain : masked tail = given tail := by
              apply given_of_copied
              intro run member
              have listed : .matched run ∈ pieces bearer (given tail ++ (dashes ++ rest)) := by
                rw [scanned]
                exact List.mem_append_left _ member
              rcases matched_letter listed with ⟨d, letter, folded⟩
              have inTail : d ∈ given tail := List.mem_flatMap.mpr ⟨_, member, letter⟩
              have inKey : d ∈ privateKey := by
                rw [whole]
                exact List.mem_append_right _ inTail
              have foreign : privateKey.all (fun e => Text.foldCase e != 'b') = true := by decide
              have other := List.all_eq_true.mp foreign d inKey
              rw [folded] at other
              cases other
            rw [plain, whole]
            rcases within with ⟨more, same⟩
            exact ⟨more, by rw [← List.append_assoc, same]; rfl⟩
        | matched run =>
            rcases within with ⟨more, same⟩
            have inside := (safe [] run (tail ++ pieces bearer (dashes ++ rest)) cut).1 (privateKey ++ dashes) (by simp [labelWords])
              more front same.symm nonempty
            apply absurd _ inside
            rw [given, List.flatMap_append, pieces_source, ← List.append_assoc, ← List.append_assoc, ← whole]
            exact List.prefix_append _ _

theorem mask_label {kind : String} (listed : kind ∈ labelKinds) {label rest : List Char} (plain : '-' ∉ label)
    (ends : privateKey <:+ label) (safe : Undisturbed (opening kind ++ (label ++ (dashes ++ rest)))) :
    ∃ found, pieces bearer (opening kind ++ (label ++ (dashes ++ rest))) = found ++ pieces bearer rest ∧
      given found = opening kind ++ (label ++ dashes) ∧
      ∀ more, pemLabel kind (masked found ++ more) = some (masked found).length := by
  have opened := (opening_foreign listed).pieces_word (label ++ (dashes ++ rest))
  have apart : ∀ before run after, pieces bearer (label ++ (dashes ++ rest)) = before ++ .matched run :: after →
      (given before).length < label.length → (given before).length + run.length ≤ label.length := by
    intro before run after split short
    by_contra long
    have whole : pieces bearer (opening kind ++ (label ++ (dashes ++ rest))) =
        ((opening kind).map .copied ++ before) ++ .matched run :: after := by
      rw [opened, split, List.append_assoc]
    have text : given before ++ (run ++ given after) = label ++ (dashes ++ rest) := by
      have source := pieces_source bearer (label ++ (dashes ++ rest))
      rw [split, List.flatMap_append, List.flatMap_cons] at source
      exact source
    have early : given before <+: label ++ (dashes ++ rest) := by
      rw [← text]
      exact List.prefix_append _ _
    have later : given before ++ run <+: label ++ (dashes ++ rest) := by
      rw [← text, ← List.append_assoc]
      exact List.prefix_append _ _
    have first : label ++ ['-'] <+: label ++ (dashes ++ rest) := ⟨"----".toList ++ rest, by rw [List.append_assoc]; rfl⟩
    have front : given before <+: label :=
      List.prefix_of_prefix_length_le early (List.prefix_append _ _) (Nat.le_of_lt short)
    have across : label ++ ['-'] <+: given before ++ run := by
      apply List.prefix_of_prefix_length_le first later
      rw [List.length_append, List.length_append, List.length_singleton]
      omega
    have dash : '-' ∈ run := by
      have member := across.subset (List.mem_append_right _ (List.mem_singleton_self '-'))
      rcases List.mem_append.mp member with inFront | inRun
      · exact absurd (front.subset inFront) plain
      · exact inRun
    have between := (safe _ _ _ whole).2 dash kind listed [] (given before)
      (by rw [given_append, given_copied, List.nil_append])
    exact plain (front.subset between)
  rcases pieces_append label apart with ⟨held, cut, source⟩
  have source : given held = label := source
  have closed := dashes_foreign.pieces_word rest
  refine ⟨(opening kind).map .copied ++ (held ++ dashes.map .copied), ?_, ?_, ?_⟩
  · rw [opened, cut, closed, List.append_assoc, List.append_assoc]
  · rw [given_append, given_append, given_copied, given_copied]
    exact congrArg (fun middle => opening kind ++ (middle ++ dashes)) source
  · have labelled : masked ((opening kind).map .copied ++ (held ++ dashes.map .copied)) =
        opening kind ++ (masked held ++ dashes) := by
      rw [masked_append, masked_append, masked_copied, masked_copied]
    have plainHeld : '-' ∉ masked held := masked_plain (source ▸ plain)
    have endsHeld : privateKey <:+ masked held := suffix_masked (safe.rest opened) held cut (source ▸ ends)
    intro more
    have five : dashes.length = 5 := by decide
    rw [labelled, List.append_assoc, List.append_assoc, pemLabel_of plainHeld endsHeld, List.length_append,
      List.length_append, five, Nat.add_assoc]

/-! Blocks that are closed by an END line and hold no dollar sign before it. -/

theorem pemKeyBody_label {input : List Char} {n : Nat} (found : pemLabel "END" input = some n) :
    pemKeyBody input = some n := by
  cases input with
  | nil =>
      rcases pemLabel_ok found with ⟨label, rest, split, -, -, -⟩
      exact absurd split (by simp [opening])
  | cons c rest => rw [pemKeyBody, found]

theorem pemKeyBody_next {c : Char} {rest : List Char} (unlabelled : pemLabel "END" (c :: rest) = none)
    (other : c ≠ '$') : pemKeyBody (c :: rest) = (pemKeyBody rest).map (1 + ·) := by
  rw [pemKeyBody, unlabelled]
  exact if_neg other

theorem pemKeyBody_skip {run : List Char} (plain : ∀ c ∈ run, c ≠ '-' ∧ c ≠ '$') (rest : List Char) :
    pemKeyBody (run ++ rest) = (pemKeyBody rest).map (run.length + ·) := by
  induction run with
  | nil => simp
  | cons c run ih =>
      have here := plain c List.mem_cons_self
      have later := ih (fun d member => plain d (List.mem_cons_of_mem c member))
      rw [List.cons_append, pemKeyBody_next (pemLabel_head here.1) here.2, later, Option.map_map]
      congr 1
      funext n
      simp only [Function.comp_apply, List.length_cons]
      omega

theorem marker_plain : ∀ c ∈ bearerMarker, c ≠ '-' ∧ c ≠ '$' := by
  have checked : bearerMarker.all (fun c => c != '-' && c != '$') = true := by decide
  intro c member
  simpa using List.all_eq_true.mp checked c member

/-- In the masked text a body runs to its END line, as it did before. -/
theorem mask_body {label after tail : List Char} (plain : '-' ∉ label) (ends : privateKey <:+ label)
    (closes : tail = opening "END" ++ (label ++ (dashes ++ after))) (body : List Char) (dollar : '$' ∉ body)
    (fresh : ∀ later, later <:+ body → later ≠ [] → pemLabel "END" (later ++ tail) = none)
    (safe : Undisturbed (body ++ tail)) :
    ∃ found, pieces bearer (body ++ tail) = found ++ pieces bearer after ∧
      given found = body ++ (opening "END" ++ (label ++ dashes)) ∧
      pemKeyBody (mask (body ++ tail)) = some (masked found).length := by
  induction body using scan_induction (fun rest => bearer (rest ++ tail)) with
  | nil =>
      rw [List.nil_append, closes] at safe ⊢
      rcases mask_label (by simp [labelKinds]) plain ends safe with ⟨found, cut, source, labelled⟩
      refine ⟨found, cut, source, ?_⟩
      rw [mask_cut cut]
      exact pemKeyBody_label (labelled _)
  | copied c rest passes ih =>
      have here : Passes bearer (c :: (rest ++ tail)) := passes
      have scanned := pieces_copied here
      have step : pieces bearer (c :: (rest ++ tail)) = [.copied c] ++ pieces bearer (rest ++ tail) := scanned
      have later := ih (fun member => dollar (List.mem_cons_of_mem c member))
        (fun v within => fresh v (within.trans (List.suffix_cons c rest))) (safe.rest step)
      rcases later with ⟨found, cut, source, runs⟩
      have other : c ≠ '$' := fun same => dollar (same ▸ List.mem_cons_self)
      have output : mask (c :: (rest ++ tail)) = c :: mask (rest ++ tail) := subst_copied _ here
      have unlabelled : pemLabel "END" (c :: mask (rest ++ tail)) = none := by
        rw [← output]
        by_contra held
        rcases Option.ne_none_iff_exists'.mp held with ⟨n, found⟩
        have known := label_of_mask (by simp [labelKinds]) safe found
        have opens : pemLabel "END" ((c :: rest) ++ tail) = none :=
          fresh (c :: rest) (List.suffix_refl _) (List.cons_ne_nil c rest)
        rw [opens] at known
        cases known
      refine ⟨.copied c :: found, by rw [List.cons_append, scanned, cut]; rfl, ?_, ?_⟩
      · have whole : given (.copied c :: found) = c :: given found := rfl
        rw [whole, source]
        rfl
      · have whole : masked (.copied c :: found) = c :: masked found := rfl
        rw [List.cons_append, output, pemKeyBody_next unlabelled other, runs, whole, List.length_cons, Nat.add_comm]
        rfl
  | matched c rest n found ih =>
      have here : bearer (c :: (rest ++ tail)) = some (n + 1) := found
      have scanned := pieces_matched here
      have inside : n ≤ rest.length := by
        by_contra beyond
        have across : (rest ++ tail).take n = rest ++ tail.take (n - rest.length) := by
          rw [List.take_append, List.take_of_length_le (by omega)]
        have nonempty : tail.take (n - rest.length) ≠ [] := by
          intro empty
          rcases List.take_eq_nil_iff.mp empty with none | nil
          · omega
          · rw [closes] at nil
            exact absurd nil (by simp [opening])
        have word := (safe [] _ _ scanned).1 (opening "END") (by simp [labelWords]) (c :: rest) _
          (congrArg (c :: ·) across) nonempty
        apply word
        have dropped : (rest ++ tail).drop n = tail.drop (n - rest.length) := by
          rw [List.drop_append, List.drop_eq_nil_of_le (by omega), List.nil_append]
        rw [given, pieces_source, dropped, List.take_append_drop, closes]
        exact List.prefix_append _ _
      have dropped : (rest ++ tail).drop n = rest.drop n ++ tail := List.drop_append_of_le_length inside
      have taken : (rest ++ tail).take n = rest.take n := List.take_append_of_le_length inside
      rw [dropped, taken] at scanned
      have shorter : rest.drop n <:+ c :: rest := (List.drop_suffix n rest).trans (List.suffix_cons c rest)
      have step : pieces bearer (c :: (rest ++ tail)) =
          [.matched (c :: rest.take n)] ++ pieces bearer (rest.drop n ++ tail) := scanned
      have later := ih (fun member => dollar (shorter.subset member)) (fun v within => fresh v (within.trans shorter))
        (safe.rest step)
      rcases later with ⟨held, cut, source, runs⟩
      have output : mask (c :: (rest ++ tail)) = bearerMarker ++ mask (rest.drop n ++ tail) := by
        rw [mask, subst_matched _ here, dropped]
      refine ⟨.matched (c :: rest.take n) :: held, by rw [List.cons_append, scanned, cut]; rfl, ?_, ?_⟩
      · have whole : given (.matched (c :: rest.take n) :: held) = (c :: rest.take n) ++ given held := rfl
        rw [whole, source, List.cons_append, ← List.append_assoc, List.take_append_drop]
        rfl
      · have whole : masked (.matched (c :: rest.take n) :: held) = bearerMarker ++ masked held := rfl
        rw [List.cons_append, output, pemKeyBody_skip marker_plain, runs, whole, List.length_append]
        rfl

end NetworkGateway.Store
