import ChainGateway.Proofs.Except
import ChainGateway.Proofs.Table
import ChainGateway.Repository

/-!
# What a repository of documents is

A load balancer is found under its own id, and whatever is in a pool is an application of the
repository, found under its own id as well (`Repository.Consistent`).  So an id names at most
one application of a pool, and looking it up there finds it.  Every repository of documents is
like this, whichever ids the documents repeat or leave dangling, as long as no application has
the empty id.
-/

namespace ChainGateway

namespace Repository

/-- Lookups return what is known by the id that was looked up, and every pool holds applications
of the repository, none with the empty id. -/
structure Consistent (repository : Repository) : Prop where
  application_id : ∀ {id : String} {application : Application},
    repository.application id = .ok application → application.id = id ∧ id ≠ ""
  balancer_id : ∀ {id : String} {balancer : LoadBalancer},
    repository.balancer id = .ok balancer → balancer.id = id
  pool : ∀ {id : String} {balancer : LoadBalancer} {application : Application},
    repository.balancer id = .ok balancer → application ∈ balancer.applications →
      repository.application application.id = .ok application

variable {repository : Repository} {id : String} {balancer : LoadBalancer}
  {application : Application}

theorem application_eq_ok_iff :
    repository.application id = .ok application ↔
      repository.applications.find? id = some application := by
  unfold Repository.application
  cases repository.applications.find? id with
  | none => simp
  | some found => simp

theorem balancer_eq_ok_iff :
    repository.balancer id = .ok balancer ↔ repository.balancers.find? id = some balancer := by
  unfold Repository.balancer
  cases repository.balancers.find? id with
  | none => simp
  | some found => simp

namespace Consistent

theorem id_ne_empty (hconsistent : repository.Consistent)
    (hbalancer : repository.balancer id = .ok balancer)
    (hmem : application ∈ balancer.applications) : application.id ≠ "" :=
  (hconsistent.application_id (hconsistent.pool hbalancer hmem)).2

/-- An id names at most one application of a pool. -/
theorem eq_of_id_eq (hconsistent : repository.Consistent)
    (hbalancer : repository.balancer id = .ok balancer) {other : Application}
    (hmem : application ∈ balancer.applications) (hother : other ∈ balancer.applications)
    (hid : other.id = application.id) : other = application := by
  have hfirst := hconsistent.pool hbalancer hmem
  have hsecond := hconsistent.pool hbalancer hother
  rw [hid] at hsecond
  exact eq_of_eq_ok hsecond hfirst

/-- An application of a pool is found there by its id. -/
theorem application?_eq_some (hconsistent : repository.Consistent)
    (hbalancer : repository.balancer id = .ok balancer)
    (hmem : application ∈ balancer.applications) :
    balancer.application? application.id = some application := by
  unfold LoadBalancer.application?
  cases hfind : balancer.applications.find? fun other => other.id == application.id with
  | none =>
      have hnot := List.find?_eq_none.mp hfind application hmem
      simp at hnot
  | some other =>
      have hid : other.id = application.id := by simpa using List.find?_some hfind
      have hother := List.mem_of_find?_eq_some hfind
      rw [hconsistent.eq_of_id_eq hbalancer hmem hother hid]

end Consistent

/-! ## Repositories of documents -/

/-- Documents give a consistent repository if no application has the empty id. -/
theorem ofDocuments_consistent {applications : List Application} {chains : List Blockchain}
    {records : List BalancerRecord} (hids : ∀ application ∈ applications, application.id ≠ "") :
    (ofDocuments applications chains records).Consistent := by
  -- entries keep the id they were listed under, also where a later one replaced them
  have hregistered : ∀ {id : String} {application : Application},
      (applications.foldl (fun table application => table.insert application.id application)
        Table.empty).find? id = some application →
      application.id = id ∧ id ≠ "" := by
    intro id application hfind
    obtain ⟨listed, hlisted, rfl, rfl⟩ := Table.exists_of_find?_foldl_insert hfind
    exact ⟨rfl, hids listed hlisted⟩
  constructor
  case application_id =>
    intro id application hfind
    exact hregistered (application_eq_ok_iff.mp hfind)
  case balancer_id =>
    intro id balancer hfind
    obtain ⟨record, -, hid, rfl⟩ :=
      Table.exists_of_find?_foldl_insert (balancer_eq_ok_iff.mp hfind)
    exact hid
  case pool =>
    intro id balancer application hfind hmem
    obtain ⟨record, -, -, rfl⟩ :=
      Table.exists_of_find?_foldl_insert (balancer_eq_ok_iff.mp hfind)
    obtain ⟨listed, -, hlisted⟩ := List.mem_filterMap.mp hmem
    obtain ⟨rfl, -⟩ := hregistered hlisted
    exact application_eq_ok_iff.mpr hlisted

end Repository

end ChainGateway
