import DAIM.Stage1.Relay

/-!
# When the loops of stage 1 end

A round ends its loop when the `read` or the `write` of it fails, and in no
other way.  The end of the file is neither of them.
-/

namespace DAIM.Stage1

open DAIM.Library

/-- The round has an error that its loop does not survive. -/
def Round.Fails (round : Round) : Prop :=
  round.result = .failed ∨
    ∃ chunk, round.result = .octets chunk ∧ chunk ≠ [] ∧ round.written < 0

/-- The rounds of one loop in a history of both. -/
def roundsOf (direction : Direction) (labels : List (Direction × Round)) : List Round :=
  (labels.filter fun label => label.1 = direction).map Prod.snd

/-- The loop goes finitely many rounds, whatever the other one does. -/
def Ends (direction : Direction) (rounds : Nat → Round) : Prop :=
  ∃ bound, ∀ labels s count, Run Step Loops.initial labels s →
    roundsOf direction labels = (List.range count).map rounds → count ≤ bound

/-- The chunks are read one after the other, and nothing but the end of the file
behind them. -/
structure Delivers (chunks : List (List UInt8)) (rounds : Nat → Round) : Prop where
  data : ∀ chunk ∈ chunks, chunk ≠ []
  read : ∀ n, (rounds n).result = .octets (chunks.getD n [])
  possible : ∀ n, (rounds n).Possible

theorem Relay.relay_exited (s : Relay) (round : Round) :
    (s.relay round).exited = true ↔ s.exited = true ∨ round.Fails := by
  cases result : round.result with
  | failed => simp [Relay.relay, Round.Fails, result]
  | octets chunk =>
      have length : (0 : Int) < chunk.length ↔ chunk ≠ [] := by
        rw [← List.length_pos_iff]
        omega
      unfold Relay.relay Relay.write
      simp only [result, length]
      by_cases data : chunk = []
      · simp [Round.Fails, result, data]
      · by_cases error : round.written < 0 <;> simp [Round.Fails, result, data, error]

@[simp]
theorem roundsOf_nil (direction : Direction) : roundsOf direction [] = [] := rfl

theorem roundsOf_own (direction : Direction) (labels : List (Direction × Round)) (round : Round) :
    roundsOf direction (labels ++ [(direction, round)]) = roundsOf direction labels ++ [round] := by
  simp [roundsOf]

theorem roundsOf_other {direction other : Direction} (different : other ≠ direction)
    (labels : List (Direction × Round)) (round : Round) :
    roundsOf direction (labels ++ [(other, round)]) = roundsOf direction labels := by
  simp [roundsOf, different]

/-- A loop that has not ended goes its next round. -/
theorem Step.own {s : Loops} {direction : Direction} {round : Round}
    (going : (s.relay direction).exited = false) (possible : round.Possible) :
    ∃ next, Step s (direction, round) next ∧
      next.relay direction = (s.relay direction).relay round := by
  cases direction with
  | toSwitch => exact ⟨_, .child going possible, rfl⟩
  | toController =>
      cases after : (s.parent.relay round).exited with
      | false => exact ⟨_, .parent going possible after, rfl⟩
      | true => exact ⟨_, .failed going possible after, rfl⟩

/-- Only a loop that goes on takes a step, and it has ended after a failure;
the other one's steps do not revive it. -/
theorem Step.exited {s next : Loops} {way : Direction} {round : Round}
    (step : Step s (way, round) next) (direction : Direction)
    (going : (next.relay direction).exited = false) :
    (s.relay direction).exited = false ∧ (way = direction → ¬ round.Fails) := by
  have survives {relay : Relay} (after : (relay.relay round).exited = false) : ¬ round.Fails := by
    intro fails
    rw [(relay.relay_exited round).mpr (.inr fails)] at after
    cases after
  cases step with
  | child before possible =>
      cases direction with
      | toSwitch => exact ⟨before, fun _ => survives going⟩
      | toController => exact ⟨going, nofun⟩
  | parent before possible after =>
      cases direction with
      | toSwitch => exact ⟨going, nofun⟩
      | toController => exact ⟨before, fun _ => survives after⟩
  | failed before possible after =>
      cases direction with
      | toSwitch => cases going
      | toController => exact absurd (going.symm.trans after) (by decide)

/-- The loop whose step it is had not ended. -/
theorem Step.going {s next : Loops} {direction : Direction} {round : Round}
    (step : Step s (direction, round) next) : (s.relay direction).exited = false := by
  cases step with
  | child before _ => exact before
  | parent before _ _ => exact before
  | failed before _ _ => exact before

/-- There is no round behind one that fails. -/
theorem count_le_of_fails {direction : Direction} {rounds : Nat → Round} {n : Nat}
    (fails : (rounds n).Fails) {labels : List (Direction × Round)} {s : Loops}
    (run : Run Step Loops.initial labels s) {count : Nat}
    (made : roundsOf direction labels = (List.range count).map rounds) :
    count ≤ n + 1 ∧ ((s.relay direction).exited = false → count ≤ n) := by
  induction run generalizing count with
  | refl =>
      have none : count = 0 := by simpa using congrArg List.length made.symm
      omega
  | @snoc labels middle finish label _ step inductionHypothesis =>
      obtain ⟨way, round⟩ := label
      by_cases own : way = direction
      · subst own
        rw [roundsOf_own] at made
        cases count with
        | zero => simp at made
        | succ count =>
            rw [List.range_succ, List.map_append] at made
            obtain ⟨before, last⟩ := List.append_inj' made rfl
            obtain rfl : round = rounds count := List.singleton_inj.mp last
            obtain ⟨-, going⟩ := inductionHypothesis before
            have least := going step.going
            refine ⟨Nat.succ_le_succ least, fun still => ?_⟩
            have survives := (step.exited way still).2 rfl
            by_contra beyond
            obtain rfl : count = n := by omega
            exact survives fails
      · rw [roundsOf_other own] at made
        obtain ⟨most, going⟩ := inductionHypothesis made
        exact ⟨most, fun still => going (step.exited direction still).1⟩

/-- As long as no round fails the loop goes on, also when the other one stands. -/
theorem exists_run {direction : Direction} {rounds : Nat → Round}
    (possible : ∀ n, (rounds n).Possible) (survives : ∀ n, ¬ (rounds n).Fails) (count : Nat) :
    ∃ labels s, Run Step Loops.initial labels s ∧
      roundsOf direction labels = (List.range count).map rounds ∧
      (s.relay direction).exited = false := by
  induction count with
  | zero => exact ⟨[], _, .refl, rfl, by cases direction <;> rfl⟩
  | succ count inductionHypothesis =>
      obtain ⟨labels, s, run, made, going⟩ := inductionHypothesis
      obtain ⟨next, step, after⟩ := Step.own going (possible count)
      refine ⟨labels ++ [(direction, rounds count)], next, .snoc run step, ?_, ?_⟩
      · rw [roundsOf_own, made, List.range_succ, List.map_append]
        rfl
      · rw [after, Bool.eq_false_iff, ne_eq, Relay.relay_exited, not_or]
        exact ⟨by simp [going], survives count⟩

theorem ends_iff_fails {direction : Direction} {rounds : Nat → Round}
    (possible : ∀ n, (rounds n).Possible) : Ends direction rounds ↔ ∃ n, (rounds n).Fails := by
  constructor
  · rintro ⟨bound, most⟩
    by_contra none
    obtain ⟨labels, s, run, made, -⟩ := exists_run possible (not_exists.mp none) (bound + 1)
    exact absurd (most labels s _ run made) (Nat.not_succ_le_self bound)
  · rintro ⟨n, fails⟩
    exact ⟨n + 1, fun labels s count run made => (count_le_of_fails fails run made).1⟩

/-- Only the `write` of a chunk can fail where every `read` succeeds. -/
theorem Delivers.fails_iff {chunks : List (List UInt8)} {rounds : Nat → Round}
    (delivers : Delivers chunks rounds) (n : Nat) :
    (rounds n).Fails ↔ n < chunks.length ∧ (rounds n).written < 0 := by
  unfold Round.Fails
  rw [delivers.read n]
  by_cases inside : n < chunks.length
  · have data := delivers.data chunks[n] (List.getElem_mem inside)
    simp [inside, data]
  · simp [inside]

/-- The peer has closed the connection before it sent anything. -/
theorem delivers_nothing (written : Int) : Delivers [] fun _ => ⟨.octets [], written⟩ where
  data := nofun
  read := fun _ => rfl
  possible := by
    intro n chunk result
    cases result
    exact ⟨by decide, fun data => absurd rfl data⟩

/-- Both loops read the end of the file for ever. -/
theorem closed_peer_spins :
    Delivers [] (fun _ => ⟨.octets [], 0⟩) ∧
      ∀ direction, ¬ Ends direction fun _ => ⟨.octets [], 0⟩ := by
  refine ⟨delivers_nothing 0, fun direction ends => ?_⟩
  obtain ⟨n, fails⟩ := (ends_iff_fails (delivers_nothing 0).possible).mp ends
  exact absurd (((delivers_nothing 0).fails_iff n).mp fails).1 (Nat.not_lt_zero n)

/-- With a stream of any chunks and then the end of the file, a loop ends only
on an error of its own: when the `write` of one of the chunks fails. -/
theorem loop_ends_iff_write_fails (direction : Direction) {chunks : List (List UInt8)}
    {rounds : Nat → Round} (delivers : Delivers chunks rounds) :
    Ends direction rounds ↔ ∃ n < chunks.length, (rounds n).written < 0 := by
  rw [ends_iff_fails delivers.possible]
  exact exists_congr delivers.fails_iff

/-- The other peer is gone when the only chunk is passed on. -/
theorem loop_ends_iff_write_fails_once :
    Ends .toSwitch fun n => if n = 0 then ⟨.octets [1], -1⟩ else ⟨.octets [], 0⟩ := by
  have delivers : Delivers [[1]] fun n => if n = 0 then ⟨.octets [1], -1⟩ else ⟨.octets [], 0⟩ := by
    refine ⟨by simp, fun n => ?_, fun n chunk result => ?_⟩
    · cases n <;> rfl
    · cases n with
      | zero =>
          cases result
          exact ⟨by decide, fun _ => .inl rfl⟩
      | succ n =>
          cases result
          exact ⟨by decide, fun data => absurd rfl data⟩
  exact (loop_ends_iff_write_fails .toSwitch delivers).mpr ⟨0, by decide, by decide⟩

end DAIM.Stage1
