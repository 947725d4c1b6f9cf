import FlowAdmission.Flow.Basic

namespace FlowAdmission

namespace Relationship

def firstMarks (taken : List String) (rs : List Relationship) : List Bool :=
  rs.mapIdx (fun i r => decide (r.name ∉ taken ++ (rs.take i).map (·.name)))

def marked (mark : Bool) (rs : List Relationship) (marks : List Bool) : List Relationship :=
  ((rs.zip marks).filter (·.2 = mark)).map (·.1)

variable {taken taken' : List String} {r : Relationship}

theorem firstMarks_congr (h : ∀ name, name ∈ taken ↔ name ∈ taken') (rs : List Relationship) :
    firstMarks taken rs = firstMarks taken' rs := by
  simp [firstMarks, h]

theorem firstMarks_cons (taken : List String) (r : Relationship) (rs : List Relationship) :
    firstMarks taken (r :: rs) = decide (r.name ∉ taken) :: firstMarks (taken ++ [r.name]) rs := by
  simp [firstMarks, List.mapIdx_cons]

theorem firstMarks_cons_first (hr : r.name ∉ taken) (rs : List Relationship) :
    firstMarks taken (r :: rs) = true :: firstMarks (taken ++ [r.name]) rs := by
  rw [firstMarks_cons, decide_eq_true hr]

theorem firstMarks_cons_repeat (hr : r.name ∈ taken) (rs : List Relationship) :
    firstMarks taken (r :: rs) = false :: firstMarks taken rs := by
  have hsame : ∀ name, name ∈ taken ++ [r.name] ↔ name ∈ taken := by
    intro name
    rw [List.mem_append, List.mem_singleton]
    exact ⟨fun h => h.elim id (fun hn => hn ▸ hr), .inl⟩
  rw [firstMarks_cons, firstMarks_congr hsame, decide_eq_false (fun h => h hr)]

theorem marked_cons_same (mark : Bool) (r : Relationship) (rs : List Relationship) (marks : List Bool) :
    marked mark (r :: rs) (mark :: marks) = r :: marked mark rs marks := by
  simp [marked]

theorem marked_cons_other (mark : Bool) (r : Relationship) (rs : List Relationship) (marks : List Bool) :
    marked mark (r :: rs) ((!mark) :: marks) = marked mark rs marks := by
  simp [marked]

theorem firsts_eq_marked (taken : List String) (rs : List Relationship) :
    (firsts rs).filter (·.name ∉ taken) = marked true rs (firstMarks taken rs) := by
  -- `taken` grows along the list on the right, where on the left each first filters what follows it
  induction rs generalizing taken with
  | nil => rfl
  | cons r rs ih =>
    have hrest : ((firsts rs).filter (!r.sameChannel ·)).filter (·.name ∉ taken) =
        (firsts rs).filter (·.name ∉ taken ++ [r.name]) := by
      rw [List.filter_filter]
      apply List.filter_congr
      intro s _
      by_cases hs : r.name = s.name
      · simp [sameChannel, hs]
      · simp [sameChannel, hs, Ne.symm hs]
    rw [firsts]
    by_cases hr : r.name ∈ taken
    · have hsame : (firsts rs).filter (·.name ∉ taken ++ [r.name]) =
          (firsts rs).filter (·.name ∉ taken) := by
        apply List.filter_congr
        intro s _
        by_cases hs : s.name = r.name
        · simp [hs, hr]
        · simp [hs]
      rw [List.filter_cons_of_neg (by simpa using hr), hrest, hsame, ih, firstMarks_cons_repeat hr]
      exact (marked_cons_other true r rs _).symm
    · rw [List.filter_cons_of_pos (by simpa using hr), hrest, ih, firstMarks_cons_first hr,
        marked_cons_same]

theorem firsts_eq (rs : List Relationship) : firsts rs = marked true rs (firstMarks [] rs) := by
  rw [← firsts_eq_marked, List.filter_eq_self.mpr (by simp)]

theorem repeats_eq_marked (taken : List String) (rs : List Relationship) :
    repeats taken rs = marked false rs (firstMarks taken rs) := by
  induction rs generalizing taken with
  | nil => rfl
  | cons r rs ih =>
    rw [repeats]
    by_cases hr : r.name ∈ taken
    · rw [if_pos (by simpa using hr), ih, firstMarks_cons_repeat hr, marked_cons_same]
    · have hsame : ∀ name, name ∈ r.name :: taken ↔ name ∈ taken ++ [r.name] := by
        intro name
        rw [List.mem_cons, List.mem_append, List.mem_singleton, or_comm]
      rw [if_neg (by simpa using hr), ih, firstMarks_congr hsame, firstMarks_cons_first hr]
      exact (marked_cons_other false r rs _).symm

end Relationship

namespace Node

def declaring (n : Node) (rs : List Relationship) : Node :=
  { n with wiring := { n.wiring with relationships := n.wiring.relationships ++ rs } }

theorem declaring_nil (n : Node) : n.declaring [] = n := by
  rw [declaring, List.append_nil]

theorem declaring_append (n : Node) (rs ss : List Relationship) :
    (n.declaring rs).declaring ss = n.declaring (rs ++ ss) := by
  rw [declaring, declaring, declaring, List.append_assoc]

theorem ofSpec_eq_declaring (s : NodeSpec) :
    ofSpec s = (ofSpec { s with relationships := [] }).declaring (Relationship.firsts s.relationships) :=
  rfl

variable {n : Node} {r : Relationship}

theorem declares_eq (n : Node) (name : String) :
    n.wiring.declares name = decide (name ∈ n.relationships.map (·.name)) := by
  rw [Wiring.declares, List.any_eq]
  simp [relationships]

theorem addRelationship_first (hr : r.name ∉ n.relationships.map (·.name)) :
    n.addRelationship r = (true, n.declaring [r]) := by
  rw [addRelationship, declares_eq, decide_eq_false hr]
  rfl

theorem addRelationship_repeat (hr : r.name ∈ n.relationships.map (·.name)) :
    n.addRelationship r = (false, n) := by
  rw [addRelationship, declares_eq, decide_eq_true hr]
  rfl

end Node

namespace Flow

open Relationship

def declareAll (f : Flow) (n : Key Node) : List Relationship → List Bool × Flow
  | [] => ([], f)
  | r :: rs =>
    let (new, f) := f.addRelationship n r
    let (news, f) := f.declareAll n rs
    (new :: news, f)

theorem declareAll_eq (f : Flow) (n : Key Node) (rs : List Relationship) :
    let marks := firstMarks ((f.nodes n).relationships.map (·.name)) rs
    f.declareAll n rs =
      (marks, { f with nodes := f.nodes.set n ((f.nodes n).declaring (marked true rs marks)) }) := by
  dsimp only
  induction rs generalizing f with
  | nil =>
    have hnone : marked true [] (firstMarks ((f.nodes n).relationships.map (·.name)) []) = [] := rfl
    rw [hnone, Node.declaring_nil, Store.set_self]
    rfl
  | cons r rs ih =>
    rw [declareAll, addRelationship]
    by_cases hr : r.name ∈ (f.nodes n).relationships.map (·.name)
    · rw [Node.addRelationship_repeat hr, firstMarks_cons_repeat hr]
      dsimp only
      rw [Store.set_self, ih]
      dsimp only
      rw [← marked_cons_other true r rs]
      rfl
    · have hnames : ((f.nodes n).declaring [r]).relationships.map (·.name) =
          (f.nodes n).relationships.map (·.name) ++ [r.name] :=
        List.map_append
      rw [Node.addRelationship_first hr, firstMarks_cons_first hr]
      dsimp only
      rw [ih]
      dsimp only
      rw [Store.set_same, Store.set_set, Node.declaring_append, hnames, marked_cons_same,
        List.singleton_append]

theorem declareAll_addNode (f : Flow) (s : NodeSpec) :
    (f.addNode { s with relationships := [] }).2.declareAll ⟨f.names⟩ s.relationships =
      (firstMarks [] s.relationships,
        { f with nodes := f.nodes.set ⟨f.names⟩ (.ofSpec s), names := f.names + 1 }) := by
  have hbare : (f.addNode { s with relationships := [] }).2 = { f with
      nodes := f.nodes.set ⟨f.names⟩ (.ofSpec { s with relationships := [] })
      log := f.log ++ []
      names := f.names + 1 } := rfl
  have hmarks : firstMarks ((Node.ofSpec { s with relationships := [] }).relationships.map (·.name))
      s.relationships = firstMarks [] s.relationships := rfl
  have hmade : (Node.ofSpec { s with relationships := [] }).declaring
      (marked true s.relationships (firstMarks [] s.relationships)) = .ofSpec s := by
    rw [← firsts_eq, ← Node.ofSpec_eq_declaring]
  rw [hbare, List.append_nil, declareAll_eq]
  dsimp only
  rw [Store.set_same, Store.set_set, hmarks, hmade]

theorem addNode_declares_in_turn (f : Flow) (s : NodeSpec) :
    let rs := s.relationships
    let isFirst := rs.mapIdx (fun i r => decide (r.name ∉ (rs.take i).map (·.name)))
    let bare := f.addNode { s with relationships := [] }
    let turns := bare.2.declareAll bare.1 rs
    let warnings : List Event :=
      ((rs.zip turns.1).filter (·.2 = false)).map (fun p => .repeatedRelationship s.id p.1.name)
    (f.addNode s).1 = bare.1 ∧
      (f.addNode s).2.nodes = turns.2.nodes ∧
      ((f.addNode s).2.nodes bare.1).relationships = ((rs.zip isFirst).filter (·.2 = true)).map (·.1) ∧
      turns.1 = isFirst ∧
      turns.2.log = f.log ∧
      (f.addNode s).2.log = f.log ++ warnings ∧
      (f.addNode s).2 = turns.2.note warnings := by
  have hbare : (f.addNode { s with relationships := [] }).1 = ⟨f.names⟩ := rfl
  have hnoted : (repeats [] s.relationships).map (fun r => Event.repeatedRelationship s.id r.name) =
      ((s.relationships.zip (firstMarks [] s.relationships)).filter (·.2 = false)).map
        (fun p => .repeatedRelationship s.id p.1.name) := by
    rw [repeats_eq_marked, marked, List.map_map]
    rfl
  dsimp only
  rw [hbare, declareAll_addNode]
  refine ⟨rfl, rfl, ?_, rfl, rfl, ?_, ?_⟩
  · have hkept : ((f.addNode s).2.nodes ⟨f.names⟩).relationships = firsts s.relationships :=
      congrArg Node.relationships (Store.set_same _ _ _)
    rw [hkept, firsts_eq]
    rfl
  · exact congrArg (f.log ++ ·) hnoted
  · rw [addNode, hnoted]
    rfl

end Flow

end FlowAdmission
