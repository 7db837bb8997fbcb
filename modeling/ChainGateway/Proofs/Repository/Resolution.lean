import ChainGateway.Proofs.Repository
import ChainGateway.Proofs.Text.LetterCase

/-!
# What ids and names resolve to

Documents may list several entities with one id.  An id resolves to the last application listed
with it, and to the load balancer of the last record listed with it; a name resolves to the first
chain that has it, in any case of the letters `A` to `Z`.  The pool of a load balancer holds, for
each id of its record in order, what that id resolves to, and nothing for an id that resolves to
nothing.  `Resolves` says all this of a repository, without the tables it is made of, and every
repository of documents is such a one (`ofDocuments_resolves`).

The lookups of applications and load balancers are read off tables in which later items have
overwritten earlier ones.  The pools were filled from the table of applications once it was
complete, so an id in a record may stand for an application that is listed anywhere.
-/

namespace ChainGateway

open Text

/-- The chain has the name as its id or as an alias, up to case. -/
def Blockchain.HasName (chain : Blockchain) (name : String) : Prop :=
  ∃ known ∈ chain.id :: chain.aliases, SameUpToCase known name

theorem Blockchain.isNamed_iff {chain : Blockchain} {name : String} :
    chain.isNamed name = true ↔ chain.HasName name := by
  unfold isNamed HasName
  rw [Bool.or_eq_true, List.any_eq_true, List.exists_mem_cons_iff]
  simp only [equalIgnoringCase_iff_sameUpToCase]

/-- No chain tells names apart that are the same up to case. -/
theorem Blockchain.isNamed_eq_of_sameUpToCase {name other : String}
    (hsame : SameUpToCase name other) (chain : Blockchain) :
    chain.isNamed name = chain.isNamed other := by
  have hfold : foldCase name = foldCase other :=
    (equalIgnoringCase_iff name other).mp (equalIgnoringCase_iff_sameUpToCase.mpr hsame)
  simp only [isNamed, equalIgnoringCase, hfold]

namespace Repository

/-- The load balancer is made from the record: it has what the record says, and its pool holds what
the listed ids resolve to, in order. -/
def MadeFrom (repository : Repository) (record : BalancerRecord) (balancer : LoadBalancer) : Prop :=
  balancer =
    { id := record.id, name := record.name, gigastake := record.gigastake
      redirect := record.redirect, policy := record.policy
      applications := record.applicationIds.filterMap fun id =>
        (repository.application id).toOption }

/-- The repository resolves ids and names as the documents list them. -/
structure Resolves (repository : Repository) (applications : List Application)
    (chains : List Blockchain) (records : List BalancerRecord) : Prop where
  /-- Of several applications with one id the last one counts. -/
  application : ∀ id found, repository.application id = .ok found ↔
    Table.LastWith Application.id applications id found
  noApplication : ∀ id error, repository.application id = .error error ↔
    error = .applicationNotFound id ∧ ∀ listed ∈ applications, listed.id ≠ id
  /-- Of several records with one id the last one counts. -/
  balancer : ∀ id found, repository.balancer id = .ok found ↔
    ∃ record, Table.LastWith BalancerRecord.id records id record ∧
      repository.MadeFrom record found
  noBalancer : ∀ id error, repository.balancer id = .error error ↔
    error = .balancerNotFound id ∧ ∀ listed ∈ records, listed.id ≠ id
  /-- Of several chains with one name the first one counts. -/
  chain : ∀ name found, repository.chain name = .ok found ↔
    found.HasName name ∧ ∃ earlier later, chains = earlier ++ found :: later ∧
      ∀ other ∈ earlier, ¬ other.HasName name
  noChain : ∀ name error, repository.chain name = .error error ↔
    error = .chainNotFound (lowercase name) ∧ ∀ listed ∈ chains, ¬ listed.HasName name
  /-- The case of the letters in a name does not matter, not even to the error. -/
  chain_eq : ∀ name other, SameUpToCase name other →
    repository.chain name = repository.chain other
  /-- What is in a pool is found by its own id. -/
  pooled : ∀ id found member, repository.balancer id = .ok found →
    member ∈ found.applications → repository.application member.id = .ok member

variable {repository : Repository} {id name : String} {error : Error}

/-! ## Lookups -/

theorem application_eq_error_iff :
    repository.application id = .error error ↔
      error = .applicationNotFound id ∧ repository.applications.find? id = none := by
  unfold Repository.application
  cases repository.applications.find? id with
  | none => simp [eq_comm]
  | some found => simp

theorem balancer_eq_error_iff :
    repository.balancer id = .error error ↔
      error = .balancerNotFound id ∧ repository.balancers.find? id = none := by
  unfold Repository.balancer
  cases repository.balancers.find? id with
  | none => simp [eq_comm]
  | some found => simp

theorem toOption_application :
    (repository.application id).toOption = repository.applications.find? id := by
  unfold Repository.application
  cases repository.applications.find? id with
  | none => rfl
  | some found => rfl

theorem chain_eq_ok_iff {found : Blockchain} :
    repository.chain name = .ok found ↔
      found.HasName name ∧ ∃ earlier later, repository.chains = earlier ++ found :: later ∧
        ∀ other ∈ earlier, ¬ other.HasName name := by
  have hfind : repository.chain name = .ok found ↔
      (repository.chains.find? fun chain => chain.isNamed name) = some found := by
    unfold Repository.chain
    cases repository.chains.find? fun chain => chain.isNamed name with
    | none => simp
    | some chain => simp
  rw [hfind, List.find?_eq_some_iff_append, Blockchain.isNamed_iff]
  simp only [Bool.not_eq_true', ← Bool.not_eq_true, Blockchain.isNamed_iff]

theorem chain_eq_error_iff :
    repository.chain name = .error error ↔
      error = .chainNotFound (lowercase name) ∧
        ∀ listed ∈ repository.chains, ¬ listed.HasName name := by
  have hfind : repository.chain name = .error error ↔
      error = .chainNotFound (lowercase name) ∧
        (repository.chains.find? fun chain => chain.isNamed name) = none := by
    unfold Repository.chain
    cases repository.chains.find? fun chain => chain.isNamed name with
    | none => simp [eq_comm]
    | some chain => simp
  rw [hfind, List.find?_eq_none]
  simp only [Blockchain.isNamed_iff]

theorem chain_eq_of_sameUpToCase {other : String} (hsame : SameUpToCase name other) :
    repository.chain name = repository.chain other := by
  unfold Repository.chain
  simp only [Blockchain.isNamed_eq_of_sameUpToCase hsame, lowercase_eq_of_sameUpToCase hsame]

/-! ## Repositories of documents -/

variable {applications : List Application} {chains : List Blockchain}
  {records : List BalancerRecord}

/-- The table of load balancers holds what is made from the records. -/
theorem resolve_madeFrom (record : BalancerRecord) :
    (ofDocuments applications chains records).MadeFrom record
      (resolve (ofDocuments applications chains records).applications record) := by
  unfold MadeFrom resolve
  simp only [toOption_application]

theorem ofDocuments_application {found : Application} :
    (ofDocuments applications chains records).application id = .ok found ↔
      Table.LastWith Application.id applications id found := by
  rw [application_eq_ok_iff]
  refine Table.find?_built_eq_some_iff.trans ⟨?_, fun hlast => ⟨found, hlast, rfl⟩⟩
  rintro ⟨listed, hlast, rfl⟩
  exact hlast

theorem ofDocuments_balancer {found : LoadBalancer} :
    (ofDocuments applications chains records).balancer id = .ok found ↔
      ∃ record, Table.LastWith BalancerRecord.id records id record ∧
        (ofDocuments applications chains records).MadeFrom record found := by
  rw [balancer_eq_ok_iff]
  refine Table.find?_built_eq_some_iff.trans
    (exists_congr fun record => and_congr_right fun _ => ?_)
  constructor
  · rintro rfl
    exact resolve_madeFrom record
  · intro hmade
    exact (resolve_madeFrom record).trans hmade.symm

/-- Whatever a listed id resolves to has that id, so it is found by its own. -/
theorem ofDocuments_pooled {found : LoadBalancer} {member : Application}
    (hfound : (ofDocuments applications chains records).balancer id = .ok found)
    (hmember : member ∈ found.applications) :
    (ofDocuments applications chains records).application member.id = .ok member := by
  obtain ⟨record, -, rfl⟩ := ofDocuments_balancer.mp hfound
  obtain ⟨listed, -, hlisted⟩ := List.mem_filterMap.mp hmember
  have hresolved := toOption_eq_some_iff.mp hlisted
  -- the table holds applications under their own ids only
  have hid : member.id = listed := (ofDocuments_application.mp hresolved).key_eq
  rwa [hid]

/-- **Documents resolve.**  Whatever the documents list, ids and names resolve as `Resolves` says:
to the last application, the last record's load balancer and the first chain, with no error but
that nothing is listed. -/
theorem ofDocuments_resolves (applications : List Application) (chains : List Blockchain)
    (records : List BalancerRecord) :
    (ofDocuments applications chains records).Resolves applications chains records where
  application _ _ := ofDocuments_application
  noApplication _ _ :=
    application_eq_error_iff.trans (and_congr_right fun _ => Table.find?_built_eq_none_iff)
  balancer _ _ := ofDocuments_balancer
  noBalancer _ _ :=
    balancer_eq_error_iff.trans (and_congr_right fun _ => Table.find?_built_eq_none_iff)
  chain _ _ := chain_eq_ok_iff
  noChain _ _ := chain_eq_error_iff
  chain_eq _ _ := chain_eq_of_sameUpToCase
  pooled _ _ _ := ofDocuments_pooled

/-- The pool repeats an id that is repeated, leaves out one that is not listed, and does not mind
that the application is listed twice. -/
example :
    (ofDocuments [{ id := "a", name := "first" }, { id := "a", name := "second" }] []
      [{ id := "lb", applicationIds := ["a", "b", "a"] }]).balancer "lb" =
      .ok { id := "lb"
            applications := [{ id := "a", name := "second" }, { id := "a", name := "second" }] } :=
  rfl

end Repository

end ChainGateway
