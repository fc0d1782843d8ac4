import Mathlib.Data.List.Basic

/-! A stream that arrives in pieces, read until what has arrived is enough. The reader looks only
at the ends of pieces, so where it stops can depend on how the stream was cut. -/

namespace Library.Cuts

variable {ι : Type} {limit : Nat} {stream later : List ι} {pieces rest : List (List ι)}

/-- The pieces, none empty and none longer than the limit, make up the stream. -/
structure Cut (limit : Nat) (stream : List ι) (pieces : List (List ι)) : Prop where
  whole : pieces.flatten = stream
  sized : ∀ piece ∈ pieces, piece ≠ [] ∧ piece.length ≤ limit

namespace Cut

theorem nil : Cut limit ([] : List ι) [] := ⟨rfl, nofun⟩

theorem cons {piece : List ι} (nonempty : piece ≠ []) (short : piece.length ≤ limit) (cut : Cut limit later rest) :
    Cut limit (piece ++ later) (piece :: rest) := by
  constructor
  · rw [List.flatten_cons, cut.whole]
  · rw [List.forall_mem_cons]
    exact ⟨⟨nonempty, short⟩, cut.sized⟩

theorem uncons {piece : List ι} (cut : Cut limit stream (piece :: rest)) :
    piece ≠ [] ∧ piece.length ≤ limit ∧ ∃ later, stream = piece ++ later ∧ Cut limit later rest := by
  rcases List.forall_mem_cons.mp cut.sized with ⟨⟨nonempty, short⟩, sized⟩
  refine ⟨nonempty, short, rest.flatten, ?_, rfl, sized⟩
  rw [← cut.whole, List.flatten_cons]

theorem append {first second : List ι} {before after : List (List ι)} (left : Cut limit first before)
    (right : Cut limit second after) : Cut limit (first ++ second) (before ++ after) := by
  constructor
  · rw [List.flatten_append, left.whole, right.whole]
  · rw [List.forall_mem_append]
    exact ⟨left.sized, right.sized⟩

end Cut

def singles (stream : List ι) : List (List ι) := stream.map (fun symbol => [symbol])

theorem singles_append (first second : List ι) : singles (first ++ second) = singles first ++ singles second :=
  List.map_append

theorem singles_cut (positive : 0 < limit) (stream : List ι) : Cut limit stream (singles stream) := by
  induction stream with
  | nil => exact Cut.nil
  | cons symbol stream ih => exact Cut.cons (List.cons_ne_nil symbol []) positive ih

/-- What has been read when the reader first halts at the end of a piece, and the pieces left. -/
def stop (halts : List ι → Bool) : List ι → List (List ι) → Option (List ι × List (List ι))
  | _, [] => none
  | seen, piece :: rest =>
      if halts (seen ++ piece) then some (seen ++ piece, rest) else stop halts (seen ++ piece) rest

section Stop

variable {halts : List ι → Bool} {seen : List ι}

theorem stop_skip (cut : Cut limit stream pieces)
    (quiet : ∀ part, part ≠ [] → part <+: stream → halts (seen ++ part) = false) (rest : List (List ι)) :
    stop halts seen (pieces ++ rest) = stop halts (seen ++ stream) rest := by
  induction pieces generalizing seen stream with
  | nil => rw [← cut.whole, List.flatten_nil, List.append_nil, List.nil_append]
  | cons piece pieces ih =>
      rcases cut.uncons with ⟨nonempty, -, later, rfl, further⟩
      rw [List.cons_append, stop, if_neg (by simp [quiet piece nonempty (List.prefix_append piece later)])]
      rw [ih further, List.append_assoc]
      intro part present starts
      rw [List.append_assoc]
      apply quiet
      · exact List.append_ne_nil_of_left_ne_nil nonempty part
      · exact (List.prefix_append_right_inj piece).mpr starts

theorem stop_never (cut : Cut limit stream pieces)
    (quiet : ∀ part, part ≠ [] → part <+: stream → halts (seen ++ part) = false) : stop halts seen pieces = none := by
  have skipped := stop_skip cut quiet []
  rw [List.append_nil] at skipped
  exact skipped

theorem stop_here {piece : List ι} (halted : halts (seen ++ piece)) (rest : List (List ι)) :
    stop halts seen (piece :: rest) = some (seen ++ piece, rest) := if_pos halted

theorem stop_cons {piece read : List ι} {left : List (List ι)}
    (stopped : stop halts seen (piece :: rest) = some (read, left)) :
    read = seen ++ piece ∨ stop halts (seen ++ piece) rest = some (read, left) := by
  by_cases halted : halts (seen ++ piece)
  · rw [stop_here halted] at stopped
    cases stopped
    exact .inl rfl
  · rw [stop, if_neg halted] at stopped
    exact .inr stopped

theorem stop_some (cut : Cut limit stream pieces) {read : List ι} (stopped : stop halts seen pieces = some (read, rest)) :
    halts read ∧ ∃ part later, part ≠ [] ∧ stream = part ++ later ∧ read = seen ++ part ∧ Cut limit later rest := by
  induction pieces generalizing seen stream with
  | nil => cases stopped
  | cons piece pieces ih =>
      rcases cut.uncons with ⟨nonempty, -, later, rfl, further⟩
      by_cases halted : halts (seen ++ piece)
      · rw [stop_here halted] at stopped
        cases stopped
        exact ⟨halted, piece, later, nonempty, rfl, rfl, further⟩
      · rw [stop, if_neg halted] at stopped
        rcases ih further stopped with ⟨there, part, last, -, rfl, rfl, left⟩
        refine ⟨there, piece ++ part, last, ?_, ?_, ?_, left⟩
        · exact List.append_ne_nil_of_left_ne_nil nonempty part
        · rw [List.append_assoc]
        · rw [List.append_assoc]

theorem stop_none (cut : Cut limit stream pieces) (nonempty : stream ≠ []) (unstopped : stop halts seen pieces = none) :
    halts (seen ++ stream) = false := by
  induction pieces generalizing seen stream with
  | nil => exact absurd cut.whole.symm nonempty
  | cons piece pieces ih =>
      rcases cut.uncons with ⟨-, -, later, rfl, further⟩
      by_cases halted : halts (seen ++ piece)
      · rw [stop_here halted] at unstopped
        cases unstopped
      · rw [stop, if_neg halted] at unstopped
        by_cases last : later = []
        · rw [last, List.append_nil]
          simpa using halted
        · have left := ih further last unstopped
          rw [List.append_assoc] at left
          exact left

structure Shortest (halts : List ι → Bool) (seen part : List ι) : Prop where
  nonempty : part ≠ []
  halted : halts (seen ++ part)
  fresh : ∀ shorter, shorter ≠ [] → shorter <+: part → shorter ≠ part → halts (seen ++ shorter) = false

theorem shortest_exists (halting : ∃ part, part ≠ [] ∧ part <+: stream ∧ halts (seen ++ part)) :
    ∃ part later, stream = part ++ later ∧ Shortest halts seen part := by
  induction stream generalizing seen with
  | nil =>
      rcases halting with ⟨part, nonempty, starts, -⟩
      exact absurd (List.prefix_nil.mp starts) nonempty
  | cons symbol stream ih =>
      by_cases now : halts (seen ++ [symbol])
      · refine ⟨[symbol], stream, rfl, List.cons_ne_nil symbol [], now, ?_⟩
        intro shorter present starts differs
        rcases List.prefix_cons_iff.mp starts with rfl | ⟨tail, rfl, none⟩
        · exact absurd rfl present
        · rw [List.prefix_nil.mp none] at differs
          exact absurd rfl differs
      · have further : ∃ part, part ≠ [] ∧ part <+: stream ∧ halts (seen ++ [symbol] ++ part) := by
          rcases halting with ⟨part, nonempty, starts, halted⟩
          rcases List.prefix_cons_iff.mp starts with rfl | ⟨tail, rfl, within⟩
          · exact absurd rfl nonempty
          · have present : tail ≠ [] := by
              rintro rfl
              exact now halted
            refine ⟨tail, present, within, ?_⟩
            rw [List.append_assoc]
            exact halted
        rcases ih further with ⟨part, later, rfl, shortest⟩
        refine ⟨symbol :: part, later, rfl, List.cons_ne_nil symbol part, ?_, ?_⟩
        · have halted := shortest.halted
          rw [List.append_assoc] at halted
          exact halted
        · intro shorter present starts differs
          rcases List.prefix_cons_iff.mp starts with rfl | ⟨tail, rfl, within⟩
          · exact absurd rfl present
          · by_cases empty : tail = []
            · rw [empty]
              simpa using now
            · have fresh := shortest.fresh tail empty within (fun same => differs (congrArg _ same))
              rw [List.append_assoc] at fresh
              exact fresh

/-- A reader that stays halted stops fewer than `limit` symbols after it could have. -/
theorem stop_shortest (stays : ∀ part more, halts part → halts (part ++ more)) {part : List ι}
    (shortest : Shortest halts seen part) (cut : Cut limit (part ++ later) pieces) :
    ∃ beyond left rest, stop halts seen pieces = some (seen ++ part ++ beyond, rest) ∧ beyond.length < limit ∧
      later = beyond ++ left ∧ Cut limit left rest := by
  induction pieces generalizing seen part with
  | nil => exact absurd (List.append_eq_nil_iff.mp cut.whole.symm).1 shortest.nonempty
  | cons piece pieces ih =>
      rcases cut.uncons with ⟨nonempty, short, further, same, following⟩
      rcases List.append_eq_append_iff.mp same with ⟨beyond, rfl, rfl⟩ | ⟨remaining, rfl, rfl⟩
      · have positive := List.length_pos_iff.mpr shortest.nonempty
        rw [List.length_append] at short
        refine ⟨beyond, further, pieces, ?_, by omega, rfl, following⟩
        have halted := stays _ beyond shortest.halted
        rw [List.append_assoc] at halted
        rw [stop_here halted, List.append_assoc]
      · by_cases done : remaining = []
        · subst done
          have halted := shortest.halted
          rw [List.append_nil] at halted
          refine ⟨[], later, pieces, ?_, ?_, rfl, following⟩
          · rw [stop_here halted, List.append_nil, List.append_nil]
          · have positive := List.length_pos_iff.mpr nonempty
            exact Nat.lt_of_lt_of_le positive short
        · have early := shortest.fresh piece nonempty (List.prefix_append piece remaining) (by simpa using done)
          have next : Shortest halts (seen ++ piece) remaining := by
            refine ⟨done, ?_, ?_⟩
            · rw [List.append_assoc]
              exact shortest.halted
            · intro shorter present starts differs
              rw [List.append_assoc]
              apply shortest.fresh
              · exact List.append_ne_nil_of_left_ne_nil nonempty shorter
              · exact (List.prefix_append_right_inj piece).mpr starts
              · exact fun same => differs (List.append_cancel_left same)
          rcases ih next following with ⟨beyond, left, rest, stopped, bounded, split, left_cut⟩
          refine ⟨beyond, left, rest, ?_, bounded, split, left_cut⟩
          rw [stop, if_neg (by simp [early]), stopped, List.append_assoc seen piece]

/-- A cut that is finest up to the last symbol of the shortest part and then takes more with it. -/
theorem stop_joined {early beyond : List ι} {last : ι} (shortest : Shortest halts seen (early ++ [last]))
    (halted : halts (seen ++ (early ++ last :: beyond))) (rest : List (List ι)) :
    stop halts seen (singles early ++ (last :: beyond) :: rest) = some (seen ++ (early ++ last :: beyond), rest) := by
  have skipped := @stop_skip _ _ _ _ halts seen (singles_cut Nat.one_pos early) ?_ ((last :: beyond) :: rest)
  · rw [skipped, stop_here, List.append_assoc]
    rw [List.append_assoc]
    exact halted
  · intro part present starts
    apply shortest.fresh part present (starts.trans (List.prefix_append early [last]))
    rintro rfl
    have short := starts.length_le
    rw [List.length_append, List.length_singleton] at short
    omega

theorem stop_singles {part : List ι} (shortest : Shortest halts seen part) (rest : List (List ι)) :
    stop halts seen (singles part ++ rest) = some (seen ++ part, rest) := by
  rcases List.eq_nil_or_concat part with rfl | ⟨early, last, rfl⟩
  · exact absurd rfl shortest.nonempty
  · rw [List.concat_eq_append] at shortest ⊢
    rw [singles_append, List.append_assoc]
    exact stop_joined shortest shortest.halted rest

/-- Where a reader halts on a stretch as long as a piece can be, no cut carries it past the stretch. -/
theorem stop_within {part : List ι} (nonempty : part ≠ []) (cut : Cut limit (part ++ later) pieces)
    (room : limit ≤ later.length + 1)
    (halting : ∀ more, more <+: later.take (limit - 1) → halts (seen ++ part ++ more)) :
    ∃ read rest, stop halts seen pieces = some (read, rest) ∧ read <+: seen ++ part ++ later.take (limit - 1) := by
  induction pieces generalizing seen part with
  | nil => exact absurd (List.append_eq_nil_iff.mp cut.whole.symm).1 nonempty
  | cons piece pieces ih =>
      rcases cut.uncons with ⟨present, short, further, same, following⟩
      rcases List.append_eq_append_iff.mp same with ⟨beyond, rfl, rfl⟩ | ⟨remaining, rfl, rfl⟩
      · have positive := List.length_pos_iff.mpr nonempty
        rw [List.length_append] at short
        have within : beyond <+: (beyond ++ further).take (limit - 1) := by
          rw [List.prefix_take_iff]
          exact ⟨List.prefix_append beyond further, by omega⟩
        have halted := halting beyond within
        rw [List.append_assoc] at halted
        refine ⟨seen ++ (part ++ beyond), pieces, stop_here halted pieces, ?_⟩
        rw [← List.append_assoc]
        exact (List.prefix_append_right_inj _).mpr within
      · by_cases halted : halts (seen ++ piece)
        · refine ⟨seen ++ piece, pieces, stop_here halted pieces, ?_⟩
          rw [← List.append_assoc, List.append_assoc]
          exact List.prefix_append _ _
        · rw [stop, if_neg halted]
          by_cases done : remaining = []
          · subst done
            have empty := halting [] List.nil_prefix
            rw [List.append_nil, List.append_nil] at empty
            exact absurd empty halted
          · have further := @ih (seen ++ piece) _ done following (by simpa [List.append_assoc] using halting)
            simpa [List.append_assoc] using further

/-- Where every stretch as long as a piece can be has a good place, and the end is one, some cut stops
at good places only. -/
theorem cut_avoiding {bad : List ι → Prop} (positive : 0 < limit) (final : stream ≠ [] → ¬bad (seen ++ stream))
    (gaps : ∀ part later, stream = part ++ later → part ≠ [] → limit ≤ later.length + 1 →
      ∃ more, more <+: later.take (limit - 1) ∧ ¬bad (seen ++ part ++ more)) :
    ∃ pieces, Cut limit stream pieces ∧ ∀ read rest, stop halts seen pieces = some (read, rest) → ¬bad read := by
  induction length : stream.length using Nat.strongRecOn generalizing stream seen with
  | ind n ih =>
      by_cases short : stream.length ≤ limit
      · by_cases empty : stream = []
        · subst empty
          exact ⟨[], Cut.nil, nofun⟩
        · have whole := Cut.cons empty short (@Cut.nil _ limit)
          rw [List.append_nil] at whole
          refine ⟨[stream], whole, ?_⟩
          intro read rest stopped
          rcases stop_cons stopped with rfl | further
          · exact final empty
          · cases further
      · cases stream with
        | nil => simp at short
        | cons symbol tail =>
            have room : limit ≤ tail.length + 1 := by
              rw [List.length_cons] at short
              omega
            rcases gaps [symbol] tail rfl (List.cons_ne_nil symbol []) room with ⟨more, starts, good⟩
            rcases starts.trans (List.take_prefix _ _) with ⟨later, rfl⟩
            have bounded : (symbol :: more).length ≤ limit := by
              have length := starts.length_le
              rw [List.length_take] at length
              rw [List.length_cons]
              omega
            have smaller : later.length < n := by
              rw [← length, List.length_cons, List.length_append]
              omega
            have further := @ih later.length smaller later (seen ++ symbol :: more) ?_ ?_ rfl
            · rcases further with ⟨pieces, cut, avoids⟩
              refine ⟨(symbol :: more) :: pieces, Cut.cons (List.cons_ne_nil _ _) bounded cut, ?_⟩
              intro read rest stopped
              rcases stop_cons stopped with rfl | further
              · simpa using good
              · exact avoids read rest further
            · intro present
              have last := final (List.cons_ne_nil _ _)
              simpa using last
            · intro part last same present room
              have gap := gaps (symbol :: more ++ part) last (by simp [same]) (List.cons_ne_nil _ _) room
              simpa using gap

end Stop

end Library.Cuts
