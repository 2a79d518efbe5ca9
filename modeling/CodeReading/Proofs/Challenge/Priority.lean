import CodeReading.Proofs.Challenge.Scan
import CodeReading.Proofs.Challenge.Splicing
import CodeReading.Proofs.Sorting

set_option autoImplicit false

namespace CodeReading.FillBlank

variable {text before after tail : List Char} {callees : List (List Char)} {spans : List Span}
  {places : List Nat} {kind : BlankKind}

/-- What segments hide after `start` characters, with its place in the text that they make up. -/
def hiddenFrom (start : Nat) : List Segment → List Candidate
  | [] => []
  | .shown text :: rest => hiddenFrom (start + text.length) rest
  | .hidden kind text :: rest => ⟨start, kind, text⟩ :: hiddenFrom (start + text.length) rest

theorem hiddenFrom_append (start : Nat) (front back : List Segment) :
    hiddenFrom start (front ++ back)
      = hiddenFrom start front
        ++ hiddenFrom (start + (front.flatMap Segment.text).length) back := by
  fun_induction hiddenFrom start front with
  | case1 start => rfl
  | case2 start text rest ih =>
    rw [List.cons_append, hiddenFrom, ih, List.flatMap_cons, List.length_append, Nat.add_assoc]
    rfl
  | case3 start kind text rest ih =>
    rw [List.cons_append, hiddenFrom, ih, List.flatMap_cons, List.length_append, Nat.add_assoc]
    rfl

theorem hiddenFrom_cut (start : Nat) (places : List Nat) (span : Span) (place : Nat) :
    hiddenFrom start (cut places span place)
      = if place ∈ places then
          (span.kind.map fun kind => ⟨start + span.gap.length, kind, span.text⟩).toList
        else [] := by
  unfold cut
  cases span.kind with
  | none => simp [hiddenFrom]
  | some kind => by_cases hidden : place ∈ places <;> simp [hidden, hiddenFrom]

/-- What is hidden is the candidates whose places are chosen. -/
theorem hiddenFrom_segments (places : List Nat) (spans : List Span) (tail : List Char)
    (place start : Nat) :
    hiddenFrom start
        (((spans.zipIdx place).flatMap fun (span, place) => cut places span place) ++ [.shown tail])
      = ((placedFrom place start spans).filter (·.1 ∈ places)).map Prod.snd := by
  induction spans generalizing place start with
  | nil => rfl
  | cons span spans ih =>
    rw [List.zipIdx_cons, List.flatMap_cons, List.append_assoc, hiddenFrom_append, ih,
      hiddenFrom_cut, flatMap_cut, List.length_append, ← Nat.add_assoc, placedFrom,
      List.filter_append, List.map_append]
    cases span.kind <;> by_cases hidden : place ∈ places <;> simp [hidden]

def Candidate.blank (candidate : Candidate) (index : Nat) : Blank :=
  ⟨index, String.ofList candidate.text, candidate.kind⟩

theorem blanksFrom_eq (index start : Nat) (segments : List Segment) :
    blanksFrom index segments
      = ((hiddenFrom start segments).zipIdx index).map fun (candidate, index) =>
          candidate.blank index := by
  induction segments generalizing index start with
  | nil => rfl
  | cons segment segments ih =>
    cases segment with
    | shown text => exact ih index _
    | hidden kind text =>
      rw [blanksFrom, ih (index + 1) (start + text.length), hiddenFrom, List.zipIdx_cons,
        List.map_cons]
      rfl

theorem candidates_eq (place start : Nat) (spans : List Span) :
    (spans.zipIdx place).filterMap (fun (span, place) => span.kind.map (·, place))
      = (placedFrom place start spans).map fun entry => (entry.2.kind, entry.1) := by
  induction spans generalizing place start with
  | nil => rfl
  | cons span spans ih =>
    rw [List.zipIdx_cons, List.filterMap_cons, placedFrom, List.map_append, ← ih]
    cases kind : span.kind <;> simp [kind]

theorem candidates_eq_nil_iff_length :
    candidates spans = [] ↔ (placedFrom 0 0 spans).length = 0 := by
  unfold candidates
  rw [candidates_eq 0 0, List.map_eq_nil_iff, List.length_eq_zero_iff]

def ranked (spans : List Span) : List (Nat × Candidate) :=
  (placedFrom 0 0 spans).mergeSort fun a b => a.2.kind.priority ≤ b.2.kind.priority

theorem chosen_eq (budget : Nat) (spans : List Span) :
    chosen budget spans = ((ranked spans).take budget).map Prod.fst := by
  unfold chosen candidates ranked
  rw [candidates_eq 0 0, ← List.map_mergeSort, ← List.map_take, List.map_map]
  · rfl
  · intro a _ b _
    rfl

theorem perm_ranked (spans : List Span) : (ranked spans).Perm (placedFrom 0 0 spans) :=
  List.mergeSort_perm _ _

theorem nodup_ranked (spans : List Span) : ((ranked spans).map Prod.fst).Nodup := by
  have distinct : ((placedFrom 0 0 spans).map Prod.fst).Nodup := by
    rw [List.Nodup, List.pairwise_map]
    exact (pairwise_placedFrom 0 0 spans).imp fun apart => Nat.ne_of_lt apart.1
  exact ((perm_ranked spans).map Prod.fst).nodup_iff.2 distinct

theorem filter_ranked (budget : Nat) (spans : List Span) :
    (ranked spans).filter (·.1 ∈ chosen budget spans) = (ranked spans).take budget := by
  have whole := List.take_append_drop budget (ranked spans)
  have distinct := nodup_ranked spans
  rw [← whole, List.map_append, List.nodup_append] at distinct
  have kept : ((ranked spans).take budget).filter (·.1 ∈ chosen budget spans)
      = (ranked spans).take budget := by
    refine List.filter_eq_self.2 fun entry mem => ?_
    rw [chosen_eq]
    exact decide_eq_true (List.mem_map_of_mem mem)
  -- A place is that of one entry, so no later one is chosen.
  have left : ((ranked spans).drop budget).filter (·.1 ∈ chosen budget spans) = [] := by
    refine List.filter_eq_nil_iff.2 fun entry mem => ?_
    rw [chosen_eq, decide_eq_true_eq]
    intro also
    exact distinct.2.2 _ also _ (List.mem_map_of_mem mem) rfl
  calc (ranked spans).filter (·.1 ∈ chosen budget spans)
      = ((ranked spans).take budget ++ (ranked spans).drop budget).filter
          (·.1 ∈ chosen budget spans) := by rw [whole]
    _ = (ranked spans).take budget := by rw [List.filter_append, kept, left, List.append_nil]

def Candidate.Precedes (candidate other : Candidate) : Prop :=
  candidate.kind.priority < other.kind.priority
    ∨ candidate.kind = other.kind ∧ candidate.start < other.start

theorem pairwise_ranked (ne_nil : ∀ candidate ∈ (placedFrom 0 0 spans).map Prod.snd,
    candidate.text ≠ []) : ((ranked spans).map Prod.snd).Pairwise Candidate.Precedes := by
  rw [List.pairwise_map]
  refine (Sorting.pairwise_mergeSort_stable (pairwise_placedFrom 0 0 spans)).imp_of_mem ?_
  rintro entry next mem - (less | ⟨same, -, apart⟩)
  · exact Or.inl less
  · have room := List.length_pos_of_ne_nil
      (ne_nil entry.2 (List.mem_map_of_mem ((perm_ranked spans).mem_iff.1 mem)))
    exact Or.inr ⟨priority_injective same, by omega⟩

/-- Whether candidates are all those of a text, in its order, and none reaches into the next. -/
structure AreCandidates (callees : List (List Char)) (text : List Char)
    (candidates : List Candidate) : Prop where
  mem_iff : ∀ candidate, candidate ∈ candidates ↔ IsCandidateIn callees text candidate
  apart : candidates.Pairwise fun candidate next =>
    candidate.start + candidate.text.length ≤ next.start

/-- Whether segments of a text hide as many of its candidates as the budget allows, the most
    important ones, as blanks that are numbered in the order of the text. -/
structure HidesBest (budget : Nat) (text : List Char) (candidates : List Candidate)
    (segments : List Segment) : Prop where
  lossless : segments.flatMap Segment.text = text
  best : ∃ ordered : List Candidate, ordered.Perm candidates ∧
    ordered.Pairwise Candidate.Precedes ∧
    (hiddenFrom 0 segments).Perm (ordered.take (min budget candidates.length))
  inOrder : (hiddenFrom 0 segments).Sublist candidates
  blanks : blanksFrom 1 segments
    = ((hiddenFrom 0 segments).zipIdx 1).map fun (candidate, index) => candidate.blank index

theorem IsRunAt.ne_nil (run : IsRunAt before text after) : text ≠ [] := by
  cases run with
  | word place => exact place.word.ne_nil
  | dot _ _ => simp

theorem IsCandidateAt.ne_nil (candidate : IsCandidateAt callees before text after kind) :
    text ≠ [] := by
  cases candidate with
  | decorator _ run _ => exact run.ne_nil
  | word place _ _ _ => exact place.word.ne_nil

theorem areCandidates_spansOf (callees : List (List Char)) (text : List Char) :
    AreCandidates callees text ((placedFrom 0 0 (spansOf callees text)).map Prod.snd) where
  mem_iff candidate := mem_placed_iff
  apart := by
    rw [List.pairwise_map]
    exact (pairwise_placedFrom 0 0 _).imp And.right

theorem hidesBest_segments (budget : Nat) (callees : List (List Char)) (text : List Char) :
    HidesBest budget text ((placedFrom 0 0 (spansOf callees text)).map Prod.snd)
      (segments (chosen budget (spansOf callees text)) (spansOf callees text) (words text).2) where
  lossless := by
    rw [flatMap_segments, spansOf, flatMap_spansFrom]
    exact spelled_words text
  best := by
    have isPerm := perm_ranked (spansOf callees text)
    refine ⟨(ranked (spansOf callees text)).map Prod.snd, isPerm.map Prod.snd, ?_, ?_⟩
    · refine pairwise_ranked fun candidate mem => ?_
      obtain ⟨before, after, -, -, isCandidate⟩ := mem_placed_iff.1 mem
      exact isCandidate.ne_nil
    · rw [← (isPerm.map Prod.snd).length_eq, ← List.take_eq_take_min, segments,
        hiddenFrom_segments, ← List.map_take, ← filter_ranked]
      exact (isPerm.symm.filter _).map Prod.snd
  inOrder := by
    rw [segments, hiddenFrom_segments]
    exact List.filter_sublist.map Prod.snd
  blanks := blanksFrom_eq 1 0 _

/-- A text is blanked unless there is no budget or no candidate, and then what is hidden is the most
    important candidates, as many as the budget allows. -/
theorem blankOut_hidesBest (config : ChallengeConfig) (callees : List String) (text : String) :
    ∃ candidates, AreCandidates (callees.map String.toList) text.toList candidates ∧
      (blankOut? config callees text = none ↔
        min (budget config (wordCount text.toList)) candidates.length = 0) ∧
      ∀ segments, blankOut? config callees text = some segments →
        HidesBest (budget config (wordCount text.toList)) text.toList candidates segments := by
  refine ⟨_, areCandidates_spansOf _ _, ?_, ?_⟩
  · rw [blankOut?_eq_ite, Nat.min_eq_zero_iff, List.length_map, ← candidates_eq_nil_iff_length]
    split_ifs with none <;> simp [none]
  · intro found isFound
    rw [blankOut?_eq_ite] at isFound
    split_ifs at isFound
    cases isFound
    exact hidesBest_segments _ _ _

theorem blankOut_hidesBest_users : ∃ candidates segments,
    AreCandidates (calleeTexts usersMaterial usersNode) usersText.toList candidates ∧
      blankOut? usersMaterial.config (usersMaterial.calleeNames usersNode) usersText
        = some segments ∧
      HidesBest 3 usersText.toList candidates segments ∧
      blanksFrom 1 segments
        = [⟨1, "app.route", .decorator⟩, ⟨2, "if", .keyword⟩, ⟨3, "rows", .returnValue⟩] := by
  obtain ⟨candidates, are, -, best⟩ := blankOut_hidesBest usersMaterial.config
    (usersMaterial.calleeNames usersNode) usersText
  rw [budget_users] at best
  exact ⟨candidates, _, are, blankOut?_users, best _ blankOut?_users,
    congrArg FillBlankSpec.blanks spec_users⟩

end CodeReading.FillBlank
