import Panel.Content.Assembly
import Panel.Guarded.Arena
import Panel.Proofs.Component.Position
import Panel.Proofs.Content.Tree
import Panel.Proofs.Guarded.Store
import Panel.Proofs.Layout.Arrays

/-!
# Parents are always in the arena

The components of an arena are those of the tree that comes of closing all open containers, by
number, and the open containers have the numbers that the arena has noted.  So a component that is
declared finds its parent in the list, and every list of operations declares in an arena what it
declares in a tree.
-/

namespace Panel

/-! ## Open containers -/

namespace Scope

/-- The number that the next component inside some open containers gets. -/
def next : List Scope → Nat
  | [] => 0
  | s :: outer => next outer + 1 + Component.sizeAll s.children

/-- The numbers of open containers. -/
def numbers : List Scope → List Nat
  | [] => []
  | _ :: outer => next outer :: numbers outer

/-- The scope with one more child. -/
def add (s : Scope) (c : Component) : Scope := { s with children := s.children ++ [c] }

/-- The tree that comes of closing open containers around a component. -/
def enclose : Component → List Scope → Component
  | c, [] => c
  | c, s :: outer => enclose (s.add c).close outer

theorem length_numbers (scopes : List Scope) : (numbers scopes).length = scopes.length := by
  induction scopes with
  | nil => rfl
  | cons s outer ih => rw [numbers, List.length_cons, List.length_cons, ih]

theorem isEmpty_numbers (scopes : List Scope) : (numbers scopes).isEmpty = scopes.isEmpty := by
  cases scopes <;> rfl

end Scope

namespace Component

theorem numbering_concat (index : Nat) (front : List Component) (c : Component) :
    numbering index (front ++ [c]) = numbering index front ++ [index + sizeAll front] := by
  induction front generalizing index with
  | nil => rfl
  | cons d front ih =>
      rw [List.cons_append, numbering, numbering, ih, sizeAll, Nat.add_assoc, List.cons_append]

theorem flattenAll_concat (parent index : Nat) (front : List Component) (c : Component) :
    flattenAll parent index (front ++ [c]) =
      flattenAll parent index front ++ c.flatten (some parent) (index + sizeAll front) := by
  rw [flattenAll_append, flattenAll, flattenAll, List.append_nil]

mutual

/-- The nodes of a tree have the modifiers of its components, in order. -/
theorem map_modifiers_flatten (parent : Option Nat) (index : Nat) :
    (c : Component) → (c.flatten parent index).map (·.modifiers) = c.preorder.map (·.modifiers)
  | node id kind modifiers children => by
      rw [flatten, preorder, List.map_cons, List.map_cons, map_modifiers_flattenAll]
      rfl

theorem map_modifiers_flattenAll (parent index : Nat) :
    (cs : List Component) →
      (flattenAll parent index cs).map (·.modifiers) = (preorderAll cs).map (·.modifiers)
  | [] => rfl
  | c :: rest => by
      rw [flattenAll, preorderAll, List.map_append, List.map_append, map_modifiers_flatten,
        map_modifiers_flattenAll]

end

end Component

namespace Scope

open Component

/-- The node of an open container. -/
def node (s : Scope) (parent : Option Nat) (index : Nat) : Node :=
  ⟨s.id, s.kind, s.modifiers, parent, numbering (index + 1) s.children⟩

theorem flatten_close (s : Scope) (parent : Option Nat) (index : Nat) :
    s.close.flatten parent index =
      s.node parent index :: flattenAll index (index + 1) s.children := rfl

/-- With one more child, the node of a container links to the number that comes next, and the nodes
of the child come after all others. -/
theorem flatten_close_add (s : Scope) (c : Component) (parent : Option Nat) (index : Nat) :
    (s.add c).close.flatten parent index =
      (s.node parent index).link (index + 1 + sizeAll s.children) ::
        (flattenAll index (index + 1) s.children ++
          c.flatten (some index) (index + 1 + sizeAll s.children)) := by
  rw [flatten_close, node, add, numbering_concat, flattenAll_concat]
  rfl

/-- The nodes around a component do not depend on it. -/
theorem exists_flatten_enclose (scopes : List Scope) :
    ∃ front : List Node, front.length = next scopes ∧ ∀ c, (enclose c scopes).flatten none 0 =
      front ++ c.flatten (numbers scopes).head? (next scopes) := by
  induction scopes with
  | nil => exact ⟨[], rfl, fun _ => rfl⟩
  | cons s outer ih =>
      obtain ⟨front, hlength, hfront⟩ := ih
      let parent := (numbers outer).head?
      let index := next outer
      refine ⟨front ++ (s.node parent index).link (index + 1 + sizeAll s.children) ::
        flattenAll index (index + 1) s.children, ?_, fun c => ?_⟩
      · rw [List.length_append, List.length_cons, length_flattenAll, hlength, next]
        omega
      · rw [enclose, hfront, flatten_close_add, List.append_assoc, List.cons_append]
        rfl

end Scope

/-! ## The tree so far -/

/-- The tree that comes of closing all open containers. -/
def Assembly.tree? (a : Assembly) : Option Component :=
  match a.scopes with
  | [] => a.root
  | s :: outer => some (Scope.enclose s.close outer)

/-- The nodes of the tree so far. -/
def Assembly.nodes (a : Assembly) : List Node :=
  (a.tree?.map (Component.flatten none 0)).getD []

namespace Assembly

variable {a : Assembly} {s : Scope} {outer : List Scope}

theorem tree?_of_cons (h : a.scopes = s :: outer) :
    a.tree? = some (Scope.enclose s.close outer) := by
  rw [tree?, h]

theorem tree?_of_nil (h : a.scopes = []) : a.tree? = a.root := by
  rw [tree?, h]

/-- A component that is attached is enclosed by what is open, and leaves it open. -/
theorem attach_eq (a : Assembly) (c : Component) : ∃ scopes root,
    a.attach c = { a with scopes, root } ∧ Scope.numbers scopes = Scope.numbers a.scopes ∧
      ({ a with scopes, root } : Assembly).tree? = some (Scope.enclose c a.scopes) := by
  unfold attach
  cases hscopes : a.scopes with
  | nil => exact ⟨[], some c, rfl, rfl, rfl⟩
  | cons s outer => exact ⟨s.add c :: outer, a.root, rfl, rfl, rfl⟩

end Assembly

namespace Arena

/-- An arena has what has been declared, and the nodes of the tree so far. -/
structure Shows (b : Arena) (a : Assembly) : Prop where
  store : b.store.toStore = a.store
  located : b.store.Located
  derived : b.derived = a.derived
  actions : b.actions = a.actions
  components : b.components = a.components
  pending : b.pending = a.pending
  nodes : b.nodes = a.nodes
  opened : b.opened = Scope.numbers a.scopes

/-- Declaring comes to the same in an arena, be it a failure or not. -/
def Matches (result? : Option (Except DecodeError Arena)) (result : Except DecodeError Assembly) :
    Prop :=
  (∃ e, result = .error e ∧ result? = some (.error e)) ∨
    ∃ a b, result = .ok a ∧ result? = some (.ok b) ∧ b.Shows a

theorem shows_start : start.Shows .start :=
  ⟨rfl, .blank, rfl, rfl, rfl, rfl, rfl, rfl⟩

variable {a : Assembly} {b : Arena} {maxDepth : Nat}

theorem Matches.error (e : DecodeError) : Matches (some (.error e)) (.error e) := .inl ⟨e, rfl, rfl⟩

theorem Shows.matches (h : b.Shows a) : Matches (some (.ok b)) (.ok a) := .inr ⟨a, b, rfl, rfl, h⟩

/-! ## Declarations -/

theorem Shows.withStore {store : Store} {t : IndexedStore} (h : b.Shows a)
    (hstore : t.toStore = store) (ht : t.Located) :
    ({ b with store := t } : Arena).Shows { a with store } :=
  ⟨hstore, ht, h.derived, h.actions, h.components, h.pending, h.nodes, h.opened⟩

theorem Shows.declare (h : b.Shows a) (id : VariableId) (value : Value) :
    Matches (some (b.declare id value)) (a.declare id value) := by
  rw [Arena.declare, Assembly.declare, ← h.store]
  rcases h.located.insert_cases id value with ⟨e, hplain, hindexed⟩ | ⟨t, hplain, hindexed, ht⟩
  · rw [hplain, hindexed]
    exact .error _
  · rw [hplain, hindexed]
    exact (h.withStore rfl ht).matches

theorem Shows.derive (h : b.Shows a) (d : DerivedVariable) :
    Matches (some (b.derive d)) (a.derive d) := by
  rw [Arena.derive, Assembly.derive]
  rcases h.declare d.id (.default d.recipe.kind) with ⟨e, hplain, hindexed⟩ |
    ⟨a', b', hplain, hindexed, h'⟩
  · rw [hplain, Option.some.inj hindexed]
    exact .error _
  · rw [hplain, Option.some.inj hindexed]
    exact Shows.matches ⟨h'.store, h'.located, congrArg (· ++ [d]) h'.derived, h'.actions,
      h'.components, h'.pending, h'.nodes, h'.opened⟩

theorem Shows.bindName (h : b.Shows a) (name : String) (id : VariableId) :
    ({ b with store := b.store.bindName name id } : Arena).Shows
      { a with store := a.store.bindName name id } :=
  h.withStore (congrArg (Store.bindName · name id) h.store) ⟨h.located.ids, h.located.index⟩

theorem Shows.action (h : b.Shows a) (declared : Action) :
    Matches (some (b.action declared)) (a.action declared) := by
  rw [Arena.action, Assembly.action, h.actions]
  by_cases hid : (a.actions.any fun other => other.id = declared.id) = true
  · rw [if_pos hid, if_pos hid]
    exact .error _
  · rw [if_neg hid, if_neg hid]
    exact Shows.matches { h with actions := congrArg (· ++ [declared]) rfl }

/-! ## Components -/

/-- An arena that has the nodes of what encloses a component shows what it is attached to. -/
theorem shows_attach {c : Component} (hstore : b.store.toStore = a.store)
    (hlocated : b.store.Located) (hderived : b.derived = a.derived)
    (hactions : b.actions = a.actions) (hcomponents : b.components = a.components)
    (hpending : b.pending = a.pending)
    (hnodes : b.nodes = (Scope.enclose c a.scopes).flatten none 0)
    (hopened : b.opened = Scope.numbers a.scopes) : b.Shows (a.attach c) := by
  obtain ⟨scopes, root, hattach, hnumbers, htree⟩ := a.attach_eq c
  rw [hattach]
  refine ⟨hstore, hlocated, hderived, hactions, hcomponents, hpending, ?_, ?_⟩
  · rw [Assembly.nodes, htree]
    exact hnodes
  · exact hopened.trans hnumbers.symm

theorem Shows.close (h : b.Shows a) : Matches (some b.close) a.close := by
  rw [Arena.close, Assembly.close, h.pending, h.opened]
  by_cases hpending : (!a.pending.isEmpty) = true
  · rw [if_pos hpending, if_pos hpending]
    exact .error _
  · rw [if_neg hpending, if_neg hpending]
    cases hscopes : a.scopes with
    | nil => exact .error _
    | cons s outer =>
        have hnodes : b.nodes = (Scope.enclose s.close outer).flatten none 0 := by
          rw [h.nodes, Assembly.nodes, Assembly.tree?_of_cons hscopes]
          rfl
        exact Shows.matches
          (shows_attach h.store h.located h.derived h.actions h.components rfl hnodes rfl)

/-- A component is appended behind all others, and its parent is where the arena says. -/
theorem Shows.append?_eq (h : b.Shows a) (hroot : a.scopes = [] → a.root = none)
    (id : ComponentId) (kind : ComponentKind) :
    b.append? id kind =
      some ((Scope.enclose (.node id kind a.pending []) a.scopes).flatten none 0) := by
  rw [append?, h.nodes, h.opened, h.pending, Assembly.nodes]
  cases hscopes : a.scopes with
  | nil =>
      rw [Assembly.tree?_of_nil hscopes, hroot hscopes]
      rfl
  | cons s outer =>
      obtain ⟨front, hlength, hfront⟩ := Scope.exists_flatten_enclose outer
      let inside := Component.flattenAll (Scope.next outer) (Scope.next outer + 1) s.children
      let parent := s.node (Scope.numbers outer).head? (Scope.next outer)
      have htotal : (front ++ parent :: inside).length =
          Scope.next outer + 1 + Component.sizeAll s.children := by
        rw [List.length_append, List.length_cons, Component.length_flattenAll]
        omega
      rw [Assembly.tree?_of_cons hscopes, Scope.enclose, hfront, Option.map_some, Option.getD_some,
        hfront, Scope.flatten_close_add, Scope.flatten_close]
      show update? (front ++ parent :: inside ++ _) (Scope.next outer)
        (·.link (front ++ parent :: inside).length) = _
      rw [htotal, List.append_assoc, List.cons_append, ← hlength, update?_append_cons, hlength]
      rfl

theorem Shows.length_nodes (h : b.Shows a) (hroot : a.scopes = [] → a.root = none) :
    b.nodes.length = Scope.next a.scopes := by
  rw [h.nodes, Assembly.nodes]
  cases hscopes : a.scopes with
  | nil =>
      rw [Assembly.tree?_of_nil hscopes, hroot hscopes]
      rfl
  | cons s outer =>
      obtain ⟨front, hlength, hfront⟩ := Scope.exists_flatten_enclose outer
      rw [Assembly.tree?_of_cons hscopes, Option.map_some, Option.getD_some, hfront,
        Scope.flatten_close, List.length_append, List.length_cons, Component.length_flattenAll,
        hlength, Scope.next]
      omega

theorem Shows.rooted (h : b.Shows a) :
    (b.opened.isEmpty && !b.nodes.isEmpty) = (a.scopes.isEmpty && a.root.isSome) := by
  rw [h.opened, Scope.isEmpty_numbers, h.nodes, Assembly.nodes]
  cases hscopes : a.scopes with
  | nil =>
      rw [Assembly.tree?_of_nil hscopes]
      cases a.root with
      | none => rfl
      | some root =>
          cases root
          rfl
  | cons s outer => rfl

theorem Shows.component (h : b.Shows a) (id : ComponentId) (kind : ComponentKind) :
    Matches (b.component? maxDepth id kind).run (a.component maxDepth id kind) := by
  rw [component?, Assembly.component, h.rooted, h.opened, Scope.isEmpty_numbers,
    Scope.length_numbers, h.components]
  split
  · exact .error _
  next hroot =>
  split
  · exact .error _
  split
  · exact .error _
  split
  · exact .error _
  have hroot' : a.scopes = [] → a.root = none := by
    intro hscopes
    simpa [hscopes] using hroot
  rw [Checked.run_bind_lift (h.append?_eq hroot' id kind), h.length_nodes hroot']
  cases kind.isContainer with
  | true =>
      exact Shows.matches ⟨h.store, h.located, h.derived, h.actions, rfl, rfl, rfl, rfl⟩
  | false =>
      exact Shows.matches
        (shows_attach h.store h.located h.derived h.actions rfl rfl rfl rfl)

/-! ## Operations -/

/-- One operation declares in an arena what it declares in a tree. -/
theorem Shows.step (h : b.Shows a) (op : Operation) :
    Matches (b.step? maxDepth op).run (a.step maxDepth op) := by
  cases op with
  | value id value => exact h.declare id value
  | name id name => exact (h.bindName name id).matches
  | derived d => exact h.derive d
  | component id kind => exact h.component id kind
  | containerEnd => exact h.close
  | modifier m => exact Shows.matches { h with pending := congrArg (· ++ [m]) h.pending }
  | action declared => exact h.action declared

/-- Operations one after the other declare in an arena what they declare in a tree. -/
theorem Shows.run (h : b.Shows a) (operations : List Operation) :
    Matches (operations.foldlM (step? maxDepth) b).run
      (operations.foldlM (Assembly.step maxDepth) a) := by
  induction operations generalizing a b with
  | nil => exact h.matches
  | cons op operations ih =>
      rw [List.foldlM_cons, List.foldlM_cons, ExceptT.run_bind]
      rcases h.step op with ⟨e, hplain, hrun⟩ | ⟨a', b', hplain, hrun, h'⟩
      · rw [hplain, hrun]
        exact .error _
      · rw [hplain, hrun]
        exact ih h'

/-- What an arena and content have in common when all operations are taken in. -/
structure Holds (b : Arena) (content : Content) : Prop where
  store : b.store.toStore = content.store
  located : b.store.Located
  derived : b.derived = content.derived
  nodes : b.nodes = content.tree.nodes
  actions : b.actions = content.actions

theorem Shows.undeclared?_eq (h : b.Shows a) {root : Component}
    (hnodes : b.nodes = root.flatten none 0) :
    b.undeclared? = Assembly.undeclared? a.actions root := by
  have hbound := congrArg (List.flatMap fun ms : Modifiers => ms.flatMap Modifier.actions)
    (Component.map_modifiers_flatten none 0 root)
  rw [List.flatMap_map, List.flatMap_map] at hbound
  rw [Arena.undeclared?, Assembly.undeclared?, h.actions, hnodes, hbound]

theorem Shows.finish (h : b.Shows a) :
    (∃ e, a.finish = .error e ∧ b.finish = .error e) ∨
      ∃ content, a.finish = .ok content ∧ b.finish = .ok b ∧ b.Holds content := by
  rw [Arena.finish, Assembly.finish, h.pending, h.opened, Scope.isEmpty_numbers, h.nodes,
    Assembly.nodes]
  split
  · exact .inl ⟨_, rfl, rfl⟩
  split
  · exact .inl ⟨_, rfl, rfl⟩
  next hscopes =>
  have hscopes : a.scopes = [] := by simpa using hscopes
  rw [Assembly.tree?_of_nil hscopes]
  cases hroot : a.root with
  | none => exact .inl ⟨_, rfl, rfl⟩
  | some root =>
      have hnodes : b.nodes = root.flatten none 0 := by
        rw [h.nodes, Assembly.nodes, Assembly.tree?_of_nil hscopes, hroot]
        rfl
      have hfull :
          ¬((Option.map (Component.flatten none 0) (some root)).getD []).isEmpty = true := by
        cases root
        exact Bool.false_ne_true
      rw [if_neg hfull, h.undeclared?_eq hnodes]
      dsimp only
      cases Assembly.undeclared? a.actions root with
      | some id => exact .inl ⟨_, rfl, rfl⟩
      | none =>
          exact .inr ⟨_, rfl, rfl, h.store, h.located, h.derived, hnodes, h.actions⟩

/-- Whatever a list of operations declares, it declares in an arena. -/
theorem ofOperations?_cases (operations : List Operation) (maxDepth : Nat) :
    (∃ e, Content.ofOperations operations maxDepth = .error e ∧
        (ofOperations? operations maxDepth).run = some (.error e)) ∨
      ∃ content b, Content.ofOperations operations maxDepth = .ok content ∧
        (ofOperations? operations maxDepth).run = some (.ok b) ∧ b.Holds content := by
  rw [ofOperations?, ExceptT.run_bind, Content.ofOperations]
  rcases shows_start.run operations with ⟨e, hplain, hrun⟩ | ⟨a, b, hplain, hrun, h⟩
  · rw [hplain, hrun]
    exact .inl ⟨e, rfl, rfl⟩
  · rw [hplain, hrun]
    rcases h.finish with ⟨e, hplain, hfinish⟩ | ⟨content, hplain, hfinish, hholds⟩
    · exact .inl ⟨e, hplain, congrArg some hfinish⟩
    · exact .inr ⟨content, b, hplain, congrArg some hfinish, hholds⟩

/-- The nodes that have been appended and linked one after the other are those of a tree whose
links, numbers and names agree with each other. -/
theorem exists_consistent_nodes {operations : List Operation}
    (h : (ofOperations? operations maxDepth).run = some (.ok b)) :
    ∃ t : ComponentTree, b.nodes = t.nodes ∧ t.Consistent maxDepth := by
  rcases ofOperations?_cases operations maxDepth with
    ⟨e, -, hrun⟩ | ⟨content, b', hbuilt, hrun, hb'⟩
  · cases hrun.symm.trans h
  · cases hrun.symm.trans h
    refine ⟨content.tree, hb'.nodes, ComponentTree.consistent ?_ fun above i c hat => ?_⟩
    · exact Content.nodup_ids_of_ofOperations hbuilt
    · exact Content.length_above_lt_of_ofOperations hbuilt hat

end Arena

end Panel
