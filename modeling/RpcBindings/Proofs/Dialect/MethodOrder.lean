/-
Module: RpcBindings.Proofs.Dialect.MethodOrder
Purpose: The order in which a dialect takes the methods of a service.
Main exports: Dialect.SortedByName, Dialect.Visits, Dialect.visits_orderedMethods,
  Dialect.orderedMethods_map
-/
import RpcBindings.Dialect.Basic

namespace RpcBindings.Dialect

/-- The declared methods sorted by the bytes of their names, those of one name as they are
declared. -/
structure SortedByName (declared visited : List Method) : Prop where
  perm : visited.Perm declared
  sorted : visited.Pairwise fun first second => nameBytes first.name ≤ nameBytes second.name
  stable : ∀ name : String, (visited.filter fun method => method.name == name) =
    declared.filter fun method => method.name == name

def Visits (order : MethodOrder) (declared visited : List Method) : Prop :=
  match order with
  | .declared => visited = declared
  | .byName => SortedByName declared visited

/-- No method is added or left out. -/
theorem Visits.perm {order : MethodOrder} {declared visited : List Method}
    (visits : Visits order declared visited) : visited.Perm declared := by
  cases order with
  | declared => exact visits ▸ List.Perm.refl _
  | byName => exact SortedByName.perm visits

def byNameBytes (first second : Method) : Bool :=
  decide (nameBytes first.name ≤ nameBytes second.name)

theorem byNameBytes_trans (first second third : Method)
    (one : byNameBytes first second = true) (two : byNameBytes second third = true) :
    byNameBytes first third = true := by
  rw [byNameBytes, decide_eq_true_eq] at one two ⊢
  exact List.le_trans one two

theorem byNameBytes_total (first second : Method) :
    (byNameBytes first second || byNameBytes second first) = true := by
  rw [Bool.or_eq_true, byNameBytes, byNameBytes, decide_eq_true_eq, decide_eq_true_eq]
  exact List.le_total _ _

/-- Sorting by name changes the order only, and not that of methods with one name. -/
theorem sortedByName_mergeSort (declared : List Method) :
    SortedByName declared (declared.mergeSort byNameBytes) where
  perm := List.mergeSort_perm _ _
  sorted := by
    have pairwise := List.pairwise_mergeSort byNameBytes_trans byNameBytes_total declared
    simpa only [byNameBytes, decide_eq_true_eq] using pairwise
  stable name := by
    let named : Method → Bool := fun method => method.name == name
    have pairwise : (declared.filter named).Pairwise fun first second =>
        byNameBytes first second = true := by
      refine List.pairwise_of_forall_mem_list ?_
      intro first firstMember second secondMember
      have firstName : first.name = name := eq_of_beq (List.mem_filter.mp firstMember).2
      have secondName : second.name = name := eq_of_beq (List.mem_filter.mp secondMember).2
      rw [byNameBytes, decide_eq_true_eq, firstName, secondName]
      exact List.le_refl _
    have kept : (declared.filter named).Sublist (declared.mergeSort byNameBytes) :=
      List.sublist_mergeSort byNameBytes_trans byNameBytes_total pairwise List.filter_sublist
    have sameLength : (declared.filter named).length =
        ((declared.mergeSort byNameBytes).filter named).length :=
      ((List.mergeSort_perm declared byNameBytes).filter named).length_eq.symm
    have keptNamed := kept.filter named
    simp only [List.filter_filter, Bool.and_self] at keptNamed
    exact (keptNamed.eq_of_length sameLength).symm

/-- A dialect takes the methods of a service in the order that it asks for. -/
theorem visits_orderedMethods (dialect : Dialect) (service : Service) :
    Visits dialect.methodOrder service.methods (dialect.orderedMethods service) := by
  unfold orderedMethods
  cases dialect.methodOrder with
  | declared => rfl
  | byName => exact sortedByName_mergeSort service.methods

/-- What becomes of methods does not change their order, as long as they keep their names. -/
theorem orderedMethods_map (dialect : Dialect) {service other : Service} {view : Method → Method}
    (methods : other.methods = service.methods.map view)
    (named : ∀ method, (view method).name = method.name) :
    dialect.orderedMethods other = (dialect.orderedMethods service).map view := by
  unfold orderedMethods
  rw [methods]
  cases dialect.methodOrder with
  | declared => rfl
  | byName =>
      symm
      exact List.map_mergeSort fun first _ second _ => by rw [named, named]

end RpcBindings.Dialect
