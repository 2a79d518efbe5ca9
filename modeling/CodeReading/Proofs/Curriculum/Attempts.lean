import CodeReading.Curriculum.Assembly
import CodeReading.Proofs.Challenge.Made
import Mathlib.Data.List.Nodup
import Mathlib.Data.List.Perm.Subperm

set_option autoImplicit false

namespace CodeReading

def successes (make : ChallengeKind → Except Gap Challenge) (kinds : List ChallengeKind) :
    List Challenge :=
  kinds.filterMap fun kind =>
    match make kind with
    | .ok challenge => some challenge
    | .error _ => none

def failures (make : ChallengeKind → Except Gap Challenge) (kinds : List ChallengeKind) :
    List Gap :=
  kinds.filterMap fun kind =>
    match make kind with
    | .ok _ => none
    | .error gap => some gap

/-- The first of the given kinds, as far as they are attempted when some number of challenges is
    missing. -/
def tried (make : ChallengeKind → Except Gap Challenge) : Nat → List ChallengeKind →
    List ChallengeKind
  | 0, _ => []
  | _, [] => []
  | room + 1, kind :: kinds =>
    match make kind with
    | .ok _ => kind :: tried make room kinds
    | .error _ => kind :: tried make (room + 1) kinds

section
variable {make : ChallengeKind → Except Gap Challenge} {kind : ChallengeKind}
  {kinds : List ChallengeKind} {challenge : Challenge} {gap : Gap}

theorem mem_successes :
    challenge ∈ successes make kinds ↔ ∃ kind ∈ kinds, make kind = .ok challenge := by
  simp only [successes, List.mem_filterMap]
  refine exists_congr fun kind => and_congr_right fun _ => ?_
  cases make kind <;> simp

theorem successes_cons_ok (h : make kind = .ok challenge) :
    successes make (kind :: kinds) = challenge :: successes make kinds := by
  simp [successes, h]

theorem successes_cons_error (h : make kind = .error gap) :
    successes make (kind :: kinds) = successes make kinds := by
  simp [successes, h]

theorem failures_cons_ok (h : make kind = .ok challenge) :
    failures make (kind :: kinds) = failures make kinds := by
  simp [failures, h]

theorem failures_cons_error (h : make kind = .error gap) :
    failures make (kind :: kinds) = gap :: failures make kinds := by
  simp [failures, h]

theorem successes_append (kinds others : List ChallengeKind) :
    successes make (kinds ++ others) = successes make kinds ++ successes make others :=
  List.filterMap_append

theorem failures_append (kinds others : List ChallengeKind) :
    failures make (kinds ++ others) = failures make kinds ++ failures make others :=
  List.filterMap_append

theorem successes_length_le : (successes make kinds).length ≤ kinds.length :=
  List.length_filterMap_le _ _

theorem length_successes_of_made (made : ∀ kind ∈ kinds, ∃ challenge, make kind = .ok challenge) :
    (successes make kinds).length = kinds.length := by
  induction kinds with
  | nil => rfl
  | cons kind kinds ih =>
    obtain ⟨⟨challenge, first⟩, later⟩ := List.forall_mem_cons.1 made
    rw [successes_cons_ok first, List.length_cons, List.length_cons, ih later]

theorem length_successes_le_all (distinct : kinds.Nodup) :
    (successes make kinds).length ≤ (successes make ChallengeKind.all).length := by
  obtain ⟨arranged, perm, sub⟩ := List.subperm_of_subset distinct fun kind _ => kind.mem_all
  calc (successes make kinds).length
      = (successes make arranged).length := (perm.filterMap _).length_eq.symm
    _ ≤ (successes make ChallengeKind.all).length := (sub.filterMap _).length_le

theorem tried_cons_ok {room : Nat} (h : make kind = .ok challenge) :
    tried make (room + 1) (kind :: kinds) = kind :: tried make room kinds := by
  simp [tried, h]

theorem tried_cons_error {room : Nat} (h : make kind = .error gap) :
    tried make (room + 1) (kind :: kinds) = kind :: tried make (room + 1) kinds := by
  simp [tried, h]

theorem tried_zero : tried make 0 kinds = [] := by
  rw [tried]

theorem tried_nil {room : Nat} : tried make room [] = [] := by
  cases room <;> simp [tried]

theorem successes_tried (room : Nat) :
    successes make (tried make room kinds) = (successes make kinds).take room := by
  induction kinds generalizing room with
  | nil => simp [tried_nil, successes]
  | cons kind kinds ih =>
    cases room with
    | zero => simp [tried_zero, successes]
    | succ room =>
      cases h : make kind with
      | ok challenge =>
        rw [tried_cons_ok h, successes_cons_ok h, successes_cons_ok h, ih, List.take_succ_cons]
      | error gap => rw [tried_cons_error h, successes_cons_error h, successes_cons_error h, ih]

theorem tried_eq_self {room : Nat} (h : (successes make kinds).length < room) :
    tried make room kinds = kinds := by
  induction kinds generalizing room with
  | nil => exact tried_nil
  | cons kind kinds ih =>
    cases room with
    | zero => omega
    | succ room =>
      cases hk : make kind with
      | ok challenge =>
        rw [successes_cons_ok hk, List.length_cons] at h
        rw [tried_cons_ok hk, ih (by omega)]
      | error gap =>
        rw [successes_cons_error hk] at h
        rw [tried_cons_error hk, ih h]

theorem tried_of_length_le {room : Nat} (h : kinds.length ≤ room) :
    tried make room kinds = kinds := by
  induction kinds generalizing room with
  | nil => exact tried_nil
  | cons kind kinds ih =>
    rw [List.length_cons] at h
    obtain ⟨room, rfl⟩ : ∃ less, room = less + 1 := ⟨room - 1, by omega⟩
    cases hk : make kind with
    | ok challenge => rw [tried_cons_ok hk, ih (by omega)]
    | error gap => rw [tried_cons_error hk, ih (by omega)]

theorem tried_spec (make : ChallengeKind → Except Gap Challenge) (room : Nat)
    (kinds : List ChallengeKind) : ∃ rest, kinds = tried make room kinds ++ rest ∧
      (rest = [] ∨ room ≤ (successes make (tried make room kinds)).length) ∧
      ∀ before kind after, tried make room kinds = before ++ kind :: after →
        (successes make before).length < room := by
  -- A success leaves room for one fewer and a failure for as many, so `room` varies.
  induction kinds generalizing room with
  | nil => exact ⟨[], by simp [tried_nil], Or.inl rfl, by simp [tried_nil]⟩
  | cons kind kinds ih =>
    cases room with
    | zero =>
      exact ⟨kind :: kinds, by simp [tried_zero], Or.inr (Nat.zero_le _), by simp [tried_zero]⟩
    | succ room =>
      cases hk : make kind with
      | ok challenge =>
        obtain ⟨rest, split, enough, needed⟩ := ih room
        rw [tried_cons_ok hk, successes_cons_ok hk]
        refine ⟨rest, by rw [List.cons_append, ← split], enough.imp_right Nat.succ_le_succ, ?_⟩
        intro before other after eq
        cases before with
        | nil => exact Nat.succ_pos room
        | cons first before =>
          obtain ⟨rfl, later⟩ := List.cons.inj eq
          rw [successes_cons_ok hk]
          exact Nat.succ_lt_succ (needed before other after later)
      | error gap =>
        obtain ⟨rest, split, enough, needed⟩ := ih (room + 1)
        rw [tried_cons_error hk, successes_cons_error hk]
        refine ⟨rest, by rw [List.cons_append, ← split], enough, ?_⟩
        intro before other after eq
        cases before with
        | nil => exact Nat.succ_pos room
        | cons first before =>
          obtain ⟨rfl, later⟩ := List.cons.inj eq
          rw [successes_cons_error hk]
          exact needed before other after later

theorem attempts_eq (limit : Nat) (made : List Challenge × List Gap) :
    Project.attempts make limit made kinds
      = (made.1 ++ successes make (tried make (limit - made.1.length) kinds),
        made.2 ++ failures make (tried make (limit - made.1.length) kinds)) := by
  -- The room that is left shrinks with every challenge, so `made` must stay general.
  induction kinds generalizing made with
  | nil => simp [Project.attempts, tried_nil, successes, failures]
  | cons kind kinds ih =>
    unfold Project.attempts
    by_cases full : limit ≤ made.1.length
    · rw [if_pos full, Nat.sub_eq_zero_of_le full]
      simp [tried_zero, successes, failures]
    · rw [if_neg full]
      obtain ⟨room, hroom⟩ : ∃ room, limit - made.1.length = room + 1 :=
        ⟨limit - made.1.length - 1, by omega⟩
      rw [hroom]
      cases hk : make kind with
      | ok challenge =>
        have next : limit - (made.1 ++ [challenge]).length = room := by
          rw [List.length_append, List.length_singleton]
          omega
        simp only [ih, next, tried_cons_ok hk, successes_cons_ok hk, failures_cons_ok hk,
          List.append_assoc, List.singleton_append]
      | error gap =>
        simp only [ih, hroom, tried_cons_error hk, successes_cons_error hk, failures_cons_error hk,
          List.append_assoc, List.singleton_append]

end

namespace ChallengeConfig

variable {config : ChallengeConfig} {g : CallGraph} {chain : Chain} {tier : Tier}

theorem select_sublist_all : (config.select g chain tier).Sublist ChallengeKind.all := by
  unfold select
  exact (List.take_sublist _ _).trans (List.filter_sublist.map Prod.fst)

theorem nodup_select : (config.select g chain tier).Nodup :=
  List.Nodup.sublist select_sublist_all (by decide)

theorem select_length_le : (config.select g chain tier).length ≤ maxChallenges :=
  List.length_take_le _ _

theorem multipleChoice_mem_select : .multipleChoice ∈ config.select g chain tier := by
  simp [select, rules, maxChallenges]

end ChallengeConfig

namespace ChallengeKind

theorem mem_fallbacks {selected : List ChallengeKind} {kind : ChallengeKind} :
    kind ∈ fallbacks selected ↔ kind ≠ .multipleChoice ∧ kind ∉ selected := by
  unfold fallbacks
  rw [List.mem_filter, decide_eq_true_eq]
  refine and_congr_left fun _ => ?_
  cases kind <;> decide

/-- Selected kinds and fallbacks together are all kinds, each once. -/
theorem selected_append_fallbacks_perm {selected : List ChallengeKind} (distinct : selected.Nodup)
    (first : .multipleChoice ∈ selected) : (selected ++ fallbacks selected).Perm all := by
  have nodup : (selected ++ fallbacks selected).Nodup := by
    refine List.nodup_append.2 ⟨distinct, List.Nodup.filter _ (by decide), ?_⟩
    intro kind mem other fallback eq
    exact (mem_fallbacks.1 fallback).2 (eq ▸ mem)
  refine (List.perm_ext_iff_of_nodup nodup (by decide)).2 fun kind => ?_
  refine iff_of_true ?_ (mem_all kind)
  by_cases mem : kind ∈ selected
  · exact List.mem_append_left _ mem
  · refine List.mem_append_right _ (mem_fallbacks.2 ⟨?_, mem⟩)
    rintro rfl
    exact mem first

end ChallengeKind
end CodeReading
