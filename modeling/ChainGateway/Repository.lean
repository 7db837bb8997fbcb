import ChainGateway.Entity.Blockchain
import ChainGateway.Entity.LoadBalancer
import ChainGateway.Error
import ChainGateway.Files
import ChainGateway.Table

/-!
# The repository

The repository resolves what a request names.  Of several applications, or load balancers, with
one id the last one counts; of several chains with one name the first one counts.  The pool of
a load balancer holds the applications its record lists, in order, without the ids that refer
to none.
-/

namespace ChainGateway

open Json Text

/-- The entities that requests refer to. -/
structure Repository where
  applications : Table String Application := .empty
  chains : List Blockchain := []
  balancers : Table String LoadBalancer := .empty
  deriving Inhabited

namespace Repository

/-- The load balancer of a record, with its pool resolved. -/
def resolve (applications : Table String Application) (record : BalancerRecord) :
    LoadBalancer where
  id := record.id
  name := record.name
  gigastake := record.gigastake
  redirect := record.redirect
  policy := record.policy
  applications := record.applicationIds.filterMap applications.find?

/-- The repository of the given documents. -/
def ofDocuments (applications : List Application) (chains : List Blockchain)
    (records : List BalancerRecord) : Repository :=
  let applications := applications.foldl
    (fun table application => table.insert application.id application) Table.empty
  { applications
    chains
    balancers := records.foldl
      (fun table record => table.insert record.id (resolve applications record)) Table.empty }

/-- The application with the given id. -/
def application (repository : Repository) (id : String) : Except Error Application :=
  match repository.applications.find? id with
  | some application => .ok application
  | none => .error (.applicationNotFound id)

/-- The first chain with the given id or alias. -/
def chain (repository : Repository) (name : String) : Except Error Blockchain :=
  match repository.chains.find? fun chain => chain.isNamed name with
  | some chain => .ok chain
  | none => .error (.chainNotFound (lowercase name))

/-- The load balancer with the given id. -/
def balancer (repository : Repository) (id : String) : Except Error LoadBalancer :=
  match repository.balancers.find? id with
  | some balancer => .ok balancer
  | none => .error (.balancerNotFound id)

/-! ## Loading -/

/-- Reads a document of the given schema from a file. -/
def readDocument {α : Type} (schema : Schema α) (files : Files) (path : String) :
    Except Error α :=
  match files path with
  | .error reason => .error (.unreadable (path ++ ": " ++ reason))
  | .ok contents =>
      match schema.decode contents with
      | .ok document => .ok document
      | .error problem => .error (.invalidDocument problem.message)

/-- The document with the block chains, in a directory. -/
def chainsPath (directory : String) : String := joinPath directory "Blockchains.json"

/-- The document with the applications, in a directory. -/
def applicationsPath (directory : String) : String := joinPath directory "Applications.json"

/-- The document with the load balancers, in a directory. -/
def balancersPath (directory : String) : String := joinPath directory "LoadBalancers.json"

/-- Loads the repository from the three documents of a directory. -/
def load (files : Files) (directory : String) : Except Error Repository := do
  let chains ← readDocument (.list Blockchain.schema) files (chainsPath directory)
  let applications ← readDocument (.list Application.schema) files (applicationsPath directory)
  let records ← readDocument (.list BalancerRecord.schema) files (balancersPath directory)
  return ofDocuments applications chains records

end Repository

end ChainGateway
