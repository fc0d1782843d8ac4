import Mathlib.Data.List.Nodup
import NetworkGateway.Library.Scan

/-! Where the characters of a substitution's result come from.

A substitution is a flattening of pieces: characters it copies and matches it
replaces. Characters that carry the position they were read from tell the two apart. -/

namespace Library.Scan

variable {α : Type}

inductive Piece (α : Type) where
  | copied (c : α)
  | matched (run : List α)
  deriving DecidableEq

namespace Piece

def source : Piece α → List α
  | copied c => [c]
  | matched run => run

def output (replacement : List α) : Piece α → List α
  | copied c => [c]
  | matched _ => replacement

end Piece

theorem source_copied (run : List α) : (run.map Piece.copied).flatMap Piece.source = run := by
  induction run with
  | nil => rfl
  | cons c run ih => simp [Piece.source, ih]

theorem output_copied (replacement run : List α) :
    (run.map Piece.copied).flatMap (Piece.output replacement) = run := by
  induction run with
  | nil => rfl
  | cons c run ih => simp [Piece.output, ih]

theorem output_unmatched {replacement : List α} {found : List (Piece α)} (unmatched : ∀ run, .matched run ∉ found) :
    found.flatMap (Piece.output replacement) = found.flatMap Piece.source := by
  induction found with
  | nil => rfl
  | cons piece rest ih =>
      have later := ih (fun run member => unmatched run (List.mem_cons_of_mem piece member))
      rw [List.flatMap_cons, List.flatMap_cons, later]
      cases piece with
      | copied c => rfl
      | matched run => exact absurd List.mem_cons_self (unmatched run)

/-- What a left-to-right scan copies and what it matches. -/
def pieces (matcher : Matcher α) : List α → List (Piece α)
  | [] => []
  | c :: rest =>
      match matcher (c :: rest) with
      | some (n + 1) => .matched (c :: rest.take n) :: pieces matcher (rest.drop n)
      | _ => .copied c :: pieces matcher rest
termination_by input => input.length
decreasing_by
  all_goals simp only [List.length_cons, List.length_drop]
  all_goals omega

@[simp] theorem pieces_nil (matcher : Matcher α) : pieces matcher [] = [] := by
  rw [pieces]

theorem pieces_matched {matcher : Matcher α} {c : α} {rest : List α} {n : Nat}
    (found : matcher (c :: rest) = some (n + 1)) :
    pieces matcher (c :: rest) = .matched (c :: rest.take n) :: pieces matcher (rest.drop n) := by
  rw [pieces, found]

def Passes (matcher : Matcher α) (input : List α) : Prop := ∀ n, matcher input ≠ some (n + 1)

theorem pieces_copied {matcher : Matcher α} {c : α} {rest : List α} (passes : Passes matcher (c :: rest)) :
    pieces matcher (c :: rest) = .copied c :: pieces matcher rest := by
  rw [pieces]
  split
  · rename_i n found
    exact absurd found (passes n)
  · rfl

theorem passes_or_matches (matcher : Matcher α) (input : List α) :
    Passes matcher input ∨ ∃ n, matcher input = some (n + 1) := by
  by_cases found : ∃ n, matcher input = some (n + 1)
  · exact .inr found
  · exact .inl (fun n same => found ⟨n, same⟩)

/-- Induction along a scan: one character is copied, or one match is skipped. -/
theorem scan_induction (matcher : Matcher α) {holds : List α → Prop} (nil : holds [])
    (copied : ∀ c rest, Passes matcher (c :: rest) → holds rest → holds (c :: rest))
    (matched : ∀ c rest n, matcher (c :: rest) = some (n + 1) → holds (rest.drop n) → holds (c :: rest))
    (input : List α) : holds input := by
  induction input using pieces.induct matcher with
  | case1 => exact nil
  | case2 c rest n found ih => exact matched c rest n found ih
  | case3 c rest passes ih => exact copied c rest passes ih

theorem pieces_source (matcher : Matcher α) (input : List α) :
    (pieces matcher input).flatMap Piece.source = input := by
  induction input using scan_induction matcher with
  | nil => simp
  | copied c rest passes ih => simp [pieces_copied passes, Piece.source, ih]
  | matched c rest n found ih => simp [pieces_matched found, Piece.source, ih]

theorem substFrom_drop (matcher : Matcher α) (replacement : List α) (skip : Nat) (input : List α) :
    substFrom matcher replacement skip input = subst matcher replacement (input.drop skip) := by
  induction input generalizing skip with
  | nil => cases skip <;> simp [substFrom, subst]
  | cons c rest ih =>
      cases skip with
      | zero => rfl
      | succ skip => exact ih skip

theorem subst_nil (matcher : Matcher α) (replacement : List α) : subst matcher replacement [] = [] := rfl

theorem subst_copied {matcher : Matcher α} {c : α} {rest : List α} (replacement : List α)
    (passes : Passes matcher (c :: rest)) :
    subst matcher replacement (c :: rest) = c :: subst matcher replacement rest := by
  rw [subst, substFrom]
  split
  · rename_i n found
    exact absurd found (passes n)
  · rfl

theorem subst_matched {matcher : Matcher α} {c : α} {rest : List α} {n : Nat} (replacement : List α)
    (found : matcher (c :: rest) = some (n + 1)) :
    subst matcher replacement (c :: rest) = replacement ++ subst matcher replacement (rest.drop n) := by
  rw [subst, substFrom, found]
  exact congrArg (replacement ++ ·) (substFrom_drop matcher replacement n rest)

theorem subst_eq_pieces (matcher : Matcher α) (replacement input : List α) :
    subst matcher replacement input = (pieces matcher input).flatMap (Piece.output replacement) := by
  induction input using scan_induction matcher with
  | nil => simp [subst_nil]
  | copied c rest passes ih => simp [pieces_copied passes, subst_copied replacement passes, Piece.output, ih]
  | matched c rest n found ih => simp [pieces_matched found, subst_matched replacement found, Piece.output, ih]

theorem subst_cut {matcher : Matcher α} {input rest : List α} {found : List (Piece α)} (replacement : List α)
    (cut : pieces matcher input = found ++ pieces matcher rest) :
    subst matcher replacement input = found.flatMap (Piece.output replacement) ++ subst matcher replacement rest := by
  rw [subst_eq_pieces, cut, List.flatMap_append, ← subst_eq_pieces]

theorem subst_taken {matcher : Matcher α} {input : List α} {n : Nat} (replacement : List α)
    (found : matcher input = some n) (positive : 0 < n) (nonempty : input ≠ []) :
    subst matcher replacement input = replacement ++ subst matcher replacement (input.drop n) := by
  cases input with
  | nil => exact absurd rfl nonempty
  | cons c rest =>
      cases n with
      | zero => exact absurd positive (Nat.lt_irrefl 0)
      | succ n => exact subst_matched replacement found

theorem subst_unmatched {matcher : Matcher α} {input : List α} (replacement : List α)
    (unmatched : ∀ run, .matched run ∉ pieces matcher input) : subst matcher replacement input = input := by
  rw [subst_eq_pieces, output_unmatched unmatched, pieces_source]

theorem subst_length_le {matcher : Matcher α} {replacement : List α} (input : List α)
    (long : ∀ tail n, matcher tail = some n → replacement.length ≤ (tail.take n).length) :
    (subst matcher replacement input).length ≤ input.length := by
  induction input using scan_induction matcher with
  | nil => exact Nat.le_refl 0
  | copied c rest passes ih =>
      rw [subst_copied _ passes, List.length_cons, List.length_cons]
      omega
  | matched c rest n found ih =>
      have bound := long _ _ found
      rw [subst_matched _ found, List.length_append, List.length_cons]
      rw [List.length_take, List.length_cons] at bound
      rw [List.length_drop] at ih
      omega

theorem pieces_suffix {matcher : Matcher α} {input : List α} {before rest : List (Piece α)}
    (split : pieces matcher input = before ++ rest) : rest = pieces matcher (rest.flatMap Piece.source) := by
  induction input using scan_induction matcher generalizing before with
  | nil =>
      rw [pieces_nil] at split
      have empty := List.append_eq_nil_iff.mp split.symm
      rw [empty.2]
      simp
  | copied c tail passes ih =>
      rw [pieces_copied passes] at split
      cases before with
      | nil =>
          rw [List.nil_append] at split
          rw [← split, ← pieces_copied passes, pieces_source]
      | cons first before => exact ih (List.cons.inj split).2
  | matched c tail n found ih =>
      rw [pieces_matched found] at split
      cases before with
      | nil =>
          rw [List.nil_append] at split
          rw [← split, ← pieces_matched found, pieces_source]
      | cons first before => exact ih (List.cons.inj split).2

theorem pieces_run {matcher : Matcher α} {run rest : List α}
    (passes : ∀ tail, tail <:+ run → tail ≠ [] → Passes matcher (tail ++ rest)) :
    pieces matcher (run ++ rest) = run.map .copied ++ pieces matcher rest := by
  induction run with
  | nil => rfl
  | cons c run ih =>
      have here : Passes matcher (c :: (run ++ rest)) := passes (c :: run) (List.suffix_refl _) (List.cons_ne_nil c run)
      have later := ih (fun tail within => passes tail (within.trans (List.suffix_cons c run)))
      rw [List.cons_append, pieces_copied here, later]
      rfl

/-- A scan is cut where no match lies across. -/
theorem pieces_append {matcher : Matcher α} (first : List α) {second : List α}
    (apart : ∀ before run after, pieces matcher (first ++ second) = before ++ .matched run :: after →
      (before.flatMap Piece.source).length < first.length →
        (before.flatMap Piece.source).length + run.length ≤ first.length) :
    ∃ found, pieces matcher (first ++ second) = found ++ pieces matcher second ∧
      found.flatMap Piece.source = first := by
  induction first using scan_induction (fun tail => matcher (tail ++ second)) with
  | nil => exact ⟨[], rfl, rfl⟩
  | copied c rest passes ih =>
      have here : Passes matcher (c :: (rest ++ second)) := passes
      have whole := pieces_copied here
      have later : ∃ found, pieces matcher (rest ++ second) = found ++ pieces matcher second ∧
          found.flatMap Piece.source = rest := by
        apply ih
        intro before run after split short
        have bound := apart (.copied c :: before) run after (by rw [List.cons_append, whole, split]; rfl)
        simp only [List.flatMap_cons, Piece.source, List.length_append, List.length_cons, List.length_nil] at bound
        omega
      rcases later with ⟨found, split, source⟩
      exact ⟨.copied c :: found, by rw [List.cons_append, whole, split]; rfl, by simp [Piece.source, source]⟩
  | matched c rest n found ih =>
      have here : matcher (c :: (rest ++ second)) = some (n + 1) := found
      have whole := pieces_matched here
      have bound := apart [] _ _ (by rw [List.cons_append, whole]; rfl) (by simp)
      simp only [List.flatMap_nil, List.length_nil, List.length_cons, List.length_take, List.length_append] at bound
      have inside : (rest ++ second).take n = rest.take n ∧ (rest ++ second).drop n = rest.drop n ++ second := by
        by_cases fits : n ≤ rest.length
        · exact ⟨List.take_append_of_le_length fits, List.drop_append_of_le_length fits⟩
        · have empty : second = [] := List.length_eq_zero_iff.mp (by omega)
          rw [empty, List.append_nil, List.append_nil]
          exact ⟨rfl, rfl⟩
      rw [inside.1, inside.2] at whole
      have later : ∃ found, pieces matcher (rest.drop n ++ second) = found ++ pieces matcher second ∧
          found.flatMap Piece.source = rest.drop n := by
        apply ih
        intro before run after split short
        have bound := apart (.matched (c :: rest.take n) :: before) run after
          (by rw [List.cons_append, whole, split]; rfl)
        simp only [List.flatMap_cons, Piece.source, List.length_append, List.length_cons, List.length_take,
          List.length_drop] at bound short ⊢
        omega
      rcases later with ⟨tail, split, source⟩
      refine ⟨.matched (c :: rest.take n) :: tail, by rw [List.cons_append, whole, split]; rfl, ?_⟩
      simp [Piece.source, source]

theorem passes_of_copied {matcher : Matcher α} {c : α} {rest : List (Piece α)} {input : List α}
    (copied : pieces matcher input = .copied c :: rest) :
    input = c :: rest.flatMap Piece.source ∧ Passes matcher input := by
  have source := pieces_source matcher input
  rw [copied] at source
  refine ⟨source.symm, ?_⟩
  intro n found
  rw [← source] at copied found
  have same : pieces matcher (c :: rest.flatMap Piece.source) = .copied c :: rest := copied
  have here : matcher (c :: rest.flatMap Piece.source) = some (n + 1) := found
  rw [pieces_matched here] at same
  cases same

theorem matches_of_matched {matcher : Matcher α} {untraced : List α} {rest : List (Piece α)} {input : List α}
    (matched : pieces matcher input = .matched untraced :: rest) :
    ∃ n, matcher input = some (n + 1) ∧ untraced = input.take (n + 1) ∧
      rest = pieces matcher (input.drop (n + 1)) := by
  cases input with
  | nil =>
      rw [pieces_nil] at matched
      cases matched
  | cons c tail =>
      rcases passes_or_matches matcher (c :: tail) with passes | ⟨n, found⟩
      · rw [pieces_copied passes] at matched
        cases matched
      · rw [pieces_matched found] at matched
        cases matched
        exact ⟨n, found, rfl, rfl⟩

/-! Characters that carry the position they were read from; an inserted one carries none. -/

abbrev Traced (α : Type) := α × Option Nat

def untraced (input : List (Traced α)) : List α := input.map Prod.fst

def traced (input : List α) : List (Traced α) := input.zipIdx.map (fun e => (e.1, some e.2))

def Copied (run : List (Traced α)) : Prop := ∀ c ∈ run, c.2 ≠ none

def lift (matcher : Matcher α) : Matcher (Traced α) := fun input => matcher (untraced input)

def inserted (replacement : List α) : List (Traced α) := replacement.map (fun c => (c, none))

def substTraced (matcher : Matcher α) (replacement : List α) (input : List (Traced α)) : List (Traced α) :=
  subst (lift matcher) (inserted replacement) input

@[simp] theorem untraced_nil : untraced ([] : List (Traced α)) = [] := rfl

@[simp] theorem untraced_cons (c : Traced α) (rest : List (Traced α)) : untraced (c :: rest) = c.1 :: untraced rest := rfl

@[simp] theorem untraced_append (first second : List (Traced α)) :
    untraced (first ++ second) = untraced first ++ untraced second := List.map_append

@[simp] theorem untraced_take (input : List (Traced α)) (n : Nat) : untraced (input.take n) = (untraced input).take n :=
  List.map_take

@[simp] theorem untraced_drop (input : List (Traced α)) (n : Nat) : untraced (input.drop n) = (untraced input).drop n :=
  List.map_drop

@[simp] theorem untraced_inserted (replacement : List α) : untraced (inserted replacement) = replacement := by
  simp [untraced, inserted, List.map_map, Function.comp_def]

@[simp] theorem untraced_traced (input : List α) : untraced (traced input) = input := by
  simp [untraced, traced, List.map_map, Function.comp_def]

@[simp] theorem untraced_length (input : List (Traced α)) : (untraced input).length = input.length := List.length_map _

theorem copied_traced (input : List α) : Copied (traced input) := by
  intro c member
  rcases List.mem_map.mp member with ⟨entry, -, rfl⟩
  exact Option.some_ne_none _

theorem traced_nodup (input : List α) : (traced input).Nodup := by
  have positions : (traced input).map Prod.snd = (List.range' 0 input.length).map some := by
    rw [← List.zipIdx_map_snd 0 input, traced, List.map_map, List.map_map]
    rfl
  apply List.Nodup.of_map Prod.snd
  rw [positions]
  exact List.Nodup.map (fun _ _ same => Option.some.inj same) List.nodup_range'

/-- Forgetting the positions gives the substitution itself. -/
theorem untraced_substTraced (matcher : Matcher α) (replacement : List α) (input : List (Traced α)) :
    untraced (substTraced matcher replacement input) = subst matcher replacement (untraced input) := by
  unfold substTraced
  induction input using scan_induction (lift matcher) with
  | nil => simp [subst_nil]
  | copied c rest passes ih =>
      have plain : Passes matcher (c.1 :: untraced rest) := passes
      rw [subst_copied _ passes, untraced_cons, ih, untraced_cons, subst_copied _ plain]
  | matched c rest n found ih =>
      have plain : matcher (c.1 :: untraced rest) = some (n + 1) := found
      rw [subst_matched _ found, untraced_append, ih, untraced_cons, subst_matched _ plain, untraced_inserted, untraced_drop]

def Piece.forget : Piece (Traced α) → Piece α
  | copied c => .copied c.1
  | matched run => .matched (untraced run)

theorem pieces_lift (matcher : Matcher α) (input : List (Traced α)) :
    (pieces (lift matcher) input).map Piece.forget = pieces matcher (untraced input) := by
  induction input using scan_induction (lift matcher) with
  | nil => simp
  | copied c rest passes ih =>
      have plain : Passes matcher (c.1 :: untraced rest) := passes
      rw [pieces_copied passes, untraced_cons, pieces_copied plain, List.map_cons, ih]
      rfl
  | matched c rest n found ih =>
      have plain : matcher (c.1 :: untraced rest) = some (n + 1) := found
      rw [pieces_matched found, untraced_cons, pieces_matched plain, List.map_cons, ih, untraced_drop]
      simp [Piece.forget]

theorem unmatched_lift {matcher : Matcher α} {input : List (Traced α)}
    (unmatched : ∀ run, .matched run ∉ pieces matcher (untraced input)) (run : List (Traced α)) :
    .matched run ∉ pieces (lift matcher) input := by
  intro member
  apply unmatched (untraced run)
  rw [← pieces_lift]
  exact List.mem_map_of_mem member

theorem source_forget (found : List (Piece (Traced α))) :
    (found.map Piece.forget).flatMap Piece.source = untraced (found.flatMap Piece.source) := by
  induction found with
  | nil => rfl
  | cons piece rest ih =>
      rw [List.map_cons, List.flatMap_cons, List.flatMap_cons, untraced_append, ih]
      cases piece <;> rfl

theorem output_forget (replacement : List α) (found : List (Piece (Traced α))) :
    (found.map Piece.forget).flatMap (Piece.output replacement) =
      untraced (found.flatMap (Piece.output (inserted replacement))) := by
  induction found with
  | nil => rfl
  | cons piece rest ih =>
      rw [List.map_cons, List.flatMap_cons, List.flatMap_cons, untraced_append, ih]
      cases piece with
      | copied c => rfl
      | matched run => exact congrArg (· ++ _) (untraced_inserted replacement).symm

theorem lift_cut {matcher : Matcher α} {first second : List (Traced α)} {found : List (Piece α)}
    (split : pieces matcher (untraced (first ++ second)) = found ++ pieces matcher (untraced second))
    (source : found.flatMap Piece.source = untraced first) :
    ∃ held, pieces (lift matcher) (first ++ second) = held ++ pieces (lift matcher) second ∧
      held.flatMap Piece.source = first ∧ held.map Piece.forget = found := by
  have lifted := pieces_lift matcher (first ++ second)
  rw [split] at lifted
  rcases List.map_eq_append_iff.mp lifted with ⟨held, tail, cut, same, later⟩
  have whole := pieces_source (lift matcher) (first ++ second)
  rw [cut, List.flatMap_append] at whole
  have length : (held.flatMap Piece.source).length = first.length := by
    rw [← untraced_length, ← source_forget, same, source, untraced_length]
  have parts := List.append_inj whole length
  have rest := pieces_suffix cut
  rw [parts.2] at rest
  exact ⟨held, by rw [cut, rest], parts.1, same⟩

theorem copied_prefix {replacement : List α} (nonempty : replacement ≠ []) {run : List (Traced α)}
    (copied : Copied run) (found : List (Piece (Traced α)))
    (here : run <+: found.flatMap (Piece.output (inserted replacement))) :
    ∃ after, found = run.map Piece.copied ++ after := by
  induction run generalizing found with
  | nil => exact ⟨found, rfl⟩
  | cons c run ih =>
      cases found with
      | nil => simp at here
      | cons piece rest =>
          rw [List.flatMap_cons] at here
          cases piece with
          | copied d =>
              have parts := List.cons_prefix_cons.mp here
              rcases ih (fun e member => copied e (List.mem_cons_of_mem _ member)) rest parts.2 with ⟨after, same⟩
              exact ⟨after, by rw [same, parts.1]; rfl⟩
          | matched source =>
              cases replacement with
              | nil => exact absurd rfl nonempty
              | cons r tail =>
                  have parts := List.cons_prefix_cons.mp here
                  have marked : c.2 = none := by rw [parts.1]
                  exact absurd marked (copied c List.mem_cons_self)

/-- A copied run in a result is a run of copied pieces: no match lies between its characters. -/
theorem copied_infix {replacement : List α} (nonempty : replacement ≠ []) {run : List (Traced α)}
    (copied : Copied run) (present : run ≠ []) (found : List (Piece (Traced α)))
    (within : run <:+: found.flatMap (Piece.output (inserted replacement))) :
    ∃ before after, found = before ++ run.map Piece.copied ++ after := by
  induction found with
  | nil => exact absurd (List.infix_nil.mp within) present
  | cons piece rest ih =>
      have later : run <:+: rest.flatMap (Piece.output (inserted replacement)) →
          ∃ before after, piece :: rest = before ++ run.map Piece.copied ++ after := by
        intro held
        rcases ih held with ⟨before, after, same⟩
        exact ⟨piece :: before, after, by rw [same]; rfl⟩
      have first : run <+: (piece :: rest).flatMap (Piece.output (inserted replacement)) →
          ∃ before after, piece :: rest = before ++ run.map Piece.copied ++ after := by
        intro here
        rcases copied_prefix nonempty copied _ here with ⟨after, same⟩
        exact ⟨[], after, same⟩
      cases piece with
      | copied d =>
          rcases List.infix_cons_iff.mp within with here | tail
          · exact first here
          · exact later tail
      | matched source =>
          -- the run starts in the inserted text or after it, and no inserted character is copied
          have apart : ∀ mark : List (Traced α), (∀ c ∈ mark, c.2 = none) →
              run <:+: mark ++ rest.flatMap (Piece.output (inserted replacement)) →
                run <:+: rest.flatMap (Piece.output (inserted replacement)) := by
            intro mark unread held
            induction mark with
            | nil => exact held
            | cons m mark shrink =>
                rcases List.infix_cons_iff.mp held with here | tail
                · cases run with
                  | nil => exact absurd rfl present
                  | cons c run =>
                      have same := (List.cons_prefix_cons.mp here).1
                      have unmarked := unread m List.mem_cons_self
                      rw [← same] at unmarked
                      exact absurd unmarked (copied c List.mem_cons_self)
                · exact shrink (fun c member => unread c (List.mem_cons_of_mem _ member)) tail
          apply later
          apply apart (inserted replacement) _ within
          intro c member
          rcases List.mem_map.mp member with ⟨_, -, rfl⟩
          rfl

theorem piece_of_copied {matcher : Matcher α} {replacement : List α} {input : List (Traced α)} {c : Traced α}
    (copied : c.2 ≠ none) (member : c ∈ substTraced matcher replacement input) :
    .copied c ∈ pieces (lift matcher) input := by
  unfold substTraced at member
  rw [subst_eq_pieces] at member
  rcases List.mem_flatMap.mp member with ⟨piece, held, within⟩
  cases piece with
  | copied d =>
      rw [List.mem_singleton.mp within]
      exact held
  | matched source =>
      rcases List.mem_map.mp within with ⟨_, -, rfl⟩
      exact absurd rfl copied

theorem mem_of_copied {matcher : Matcher α} {replacement : List α} {input : List (Traced α)} {c : Traced α}
    (copied : c.2 ≠ none) (member : c ∈ substTraced matcher replacement input) : c ∈ input := by
  rw [← pieces_source (lift matcher) input]
  exact List.mem_flatMap.mpr ⟨_, piece_of_copied copied member, List.mem_singleton_self c⟩

theorem not_copied_of_matched {matcher : Matcher α} {replacement : List α} {input : List (Traced α)}
    (distinct : input.Nodup) {source : List (Traced α)} (matched : .matched source ∈ pieces (lift matcher) input)
    {c : Traced α} (member : c ∈ source) (carried : c.2 ≠ none) : c ∉ substTraced matcher replacement input := by
  intro survives
  have copied := piece_of_copied carried survives
  have held : ∀ found : List (Piece (Traced α)), .copied c ∈ found → c ∈ found.flatMap Piece.source :=
    fun found listed => List.mem_flatMap.mpr ⟨_, listed, List.mem_singleton_self c⟩
  rcases List.append_of_mem matched with ⟨first, rest, split⟩
  have whole := pieces_source (lift matcher) input
  rw [split, List.flatMap_append, List.flatMap_cons] at whole
  rw [← whole] at distinct
  rw [split] at copied
  have apart := List.nodup_append.mp distinct
  rcases List.mem_append.mp copied with before | later
  · exact apart.2.2 c (held first before) c (List.mem_append_left _ member) rfl
  · rcases List.mem_cons.mp later with same | after
    · cases same
    · exact (List.nodup_append.mp apart.2.1).2.2 c member c (held rest after) rfl

theorem matched_of_not_copied {matcher : Matcher α} {replacement : List α} {input : List (Traced α)} {c : Traced α}
    (member : c ∈ input) (absent : c ∉ substTraced matcher replacement input) :
    ∃ source, .matched source ∈ pieces (lift matcher) input ∧ c ∈ source := by
  rw [← pieces_source (lift matcher) input] at member
  unfold substTraced at absent
  rw [subst_eq_pieces] at absent
  rcases List.mem_flatMap.mp member with ⟨piece, held, within⟩
  cases piece with
  | copied d =>
      have output : c ∈ Piece.output (inserted replacement) (.copied d) := within
      exact absurd (List.mem_flatMap.mpr ⟨_, held, output⟩) absent
  | matched source => exact ⟨source, held, within⟩

theorem matched_split {matcher : Matcher α} {input source : List α} (matched : .matched source ∈ pieces matcher input) :
    ∃ before after n, input = before ++ source ++ after ∧ matcher (source ++ after) = some n ∧
      source = (source ++ after).take n := by
  rcases List.append_of_mem matched with ⟨first, rest, split⟩
  have scanned := pieces_suffix split
  have whole := pieces_source matcher input
  rw [split, List.flatMap_append, List.flatMap_cons] at whole
  have held : (Piece.matched source :: rest).flatMap Piece.source = source ++ rest.flatMap Piece.source := rfl
  rw [held] at scanned
  rcases matches_of_matched scanned.symm with ⟨n, found, taken, -⟩
  refine ⟨first.flatMap Piece.source, rest.flatMap Piece.source, n + 1, ?_, found, taken⟩
  rw [← whole, List.append_assoc]
  rfl

theorem infix_of_copied {matcher : Matcher α} {replacement : List α} (nonempty : replacement ≠ [])
    {run input : List (Traced α)} (copied : Copied run)
    (within : run <:+: substTraced matcher replacement input) : run <:+: input := by
  cases run with
  | nil => exact List.nil_infix
  | cons c run =>
      unfold substTraced at within
      rw [subst_eq_pieces] at within
      rcases copied_infix nonempty copied (List.cons_ne_nil c run) _ within with ⟨before, after, same⟩
      have source := pieces_source (lift matcher) input
      rw [same, List.flatMap_append, List.flatMap_append, source_copied] at source
      exact ⟨before.flatMap Piece.source, after.flatMap Piece.source, source⟩

/-- A word that was replaced is nowhere copied whole. -/
theorem word_masked [DecidableEq α] {sought replacement : List α} (nonempty : replacement ≠ [])
    (some_sought : sought ≠ []) {run input : List (Traced α)} (copied : Copied run)
    (within : run <:+: substTraced (word sought) replacement input) : untraced run ≠ sought := by
  intro same
  cases run with
  | nil => exact some_sought same.symm
  | cons c run =>
      unfold substTraced at within
      rw [subst_eq_pieces] at within
      rcases copied_infix nonempty copied (List.cons_ne_nil c run) _ within with ⟨before, after, split⟩
      rw [List.append_assoc] at split
      have scanned := pieces_suffix split
      have passes := (passes_of_copied scanned.symm).2
      rw [List.flatMap_append, source_copied] at passes
      apply passes run.length
      have here : sought.isPrefixOf (untraced (c :: run ++ after.flatMap Piece.source)) = true := by
        rw [List.isPrefixOf_iff_prefix, untraced_append, same]
        exact List.prefix_append _ _
      have length : sought.length = run.length + 1 := by
        rw [← same, untraced_length, List.length_cons]
      unfold lift word
      rw [if_pos here, length]

end Library.Scan
