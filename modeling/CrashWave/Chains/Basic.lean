import Mathlib.Logic.Relation

/-! Nodes that recorded links connect to a root, in either direction of a link. -/

namespace Chains

variable {ν : Type*}

/-- One of the links joins the two nodes. -/
def Joined (links : List (ν × ν)) (left right : ν) : Prop :=
  (left, right) ∈ links ∨ (right, left) ∈ links

/-- A chain of links leads from the root to the node. -/
def Connected (links : List (ν × ν)) (root node : ν) : Prop :=
  Relation.ReflTransGen (Joined links) root node

variable {links : List (ν × ν)} {root node left right : ν}

/-- A further link keeps what is connected. -/
theorem Connected.cons (connected : Connected links root node) (link : ν × ν)
    : Connected (link :: links) root node := by
  refine Relation.ReflTransGen.mono ?_ _ _ connected
  intro left right joined
  exact joined.imp (List.mem_cons_of_mem link) (List.mem_cons_of_mem link)

/-- The nodes are those that the links connect to the root, and no link leads elsewhere. -/
structure Spanned (links : List (ν × ν)) (root : ν) (nodes : List ν) : Prop where
  rooted : root ∈ nodes
  reached : ∀ node ∈ nodes, Connected links root node
  closed : ∀ link ∈ links, link.1 ∈ nodes ∧ link.2 ∈ nodes

/-- Without links there is the root alone. -/
theorem Spanned.initial (root : ν) : Spanned [] root [root] := by
  refine ⟨List.mem_cons_self, ?_, ?_⟩
  · intro node member
    exact List.mem_singleton.mp member ▸ .refl
  · intro link member
    contradiction

/-- The spanned nodes are the connected ones, by induction on the chain of links. -/
theorem Spanned.connected_iff {nodes : List ν} (spanned : Spanned links root nodes)
    : Connected links root node ↔ node ∈ nodes := by
  constructor
  · intro connected
    induction connected with
    | refl => exact spanned.rooted
    | tail _ joined _ =>
        rcases joined with forward | backward
        · exact (spanned.closed _ forward).2
        · exact (spanned.closed _ backward).1
  · exact spanned.reached node

/-- A link with an end among the nodes adds its two ends. -/
theorem Spanned.cons {nodes : List ν} (spanned : Spanned links root nodes)
    (touches : left ∈ nodes ∨ right ∈ nodes)
    : Spanned ((left, right) :: links) root (left :: right :: nodes) := by
  have forward : Joined ((left, right) :: links) left right := .inl List.mem_cons_self
  have backward : Joined ((left, right) :: links) right left := .inr List.mem_cons_self
  have ends : Connected ((left, right) :: links) root left
      ∧ Connected ((left, right) :: links) root right := by
    rcases touches with first | second
    · have connected := (spanned.reached left first).cons (left, right)
      exact ⟨connected, connected.tail forward⟩
    · have connected := (spanned.reached right second).cons (left, right)
      exact ⟨connected.tail backward, connected⟩
  refine ⟨by simp [spanned.rooted], ?_, ?_⟩
  · intro node member
    simp only [List.mem_cons] at member
    rcases member with rfl | rfl | old
    · exact ends.1
    · exact ends.2
    · exact (spanned.reached node old).cons (left, right)
  · intro link member
    rcases List.mem_cons.mp member with rfl | old
    · simp
    · obtain ⟨first, second⟩ := spanned.closed link old
      exact ⟨by simp [first], by simp [second]⟩

end Chains
