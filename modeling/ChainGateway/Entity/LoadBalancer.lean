import ChainGateway.Entity.Application
import ChainGateway.Entity.StickyPolicy

/-!
# Load balancers

A load balancer spreads relays over a pool of applications.  As stored it lists the ids of the
applications (`BalancerRecord`); with the ids resolved it is a `LoadBalancer`.
-/

namespace ChainGateway

open Json

/-- A load balancer as stored, with application ids that need not refer to anything. -/
structure BalancerRecord where
  id : String
  name : String := ""
  applicationIds : List String := []
  gigastake : Bool := false
  redirect : Bool := false
  policy : StickyPolicy := {}
  deriving DecidableEq, Repr, Inhabited

/-- A load balancer with its pool of applications. -/
structure LoadBalancer where
  id : String
  name : String := ""
  gigastake : Bool := false
  /-- Spreads traffic to gigastake applications; this is not offered yet. -/
  redirect : Bool := false
  policy : StickyPolicy := {}
  applications : List Application := []
  deriving DecidableEq, Repr, Inhabited

/-- The application of the pool with the given id. -/
def LoadBalancer.application? (balancer : LoadBalancer) (id : String) : Option Application :=
  balancer.applications.find? fun application => application.id == id

/-- The document form of a stored load balancer: only its id must be present. -/
def BalancerRecord.schema : Schema BalancerRecord :=
  .record "LoadBalancerRecord"
    (.field "id" .text none <|
      .field "name" .text (some "") <|
      .field "applicationIDs" (.list .text) (some []) <|
      .field "gigastake" .flag (some false) <|
      .field "gigastakeRedirect" .flag (some false) <|
      .field "stickinessOptions" StickyPolicy.schema (some {}) .done)
    (fun (id, name, applicationIds, gigastake, redirect, policy, ()) =>
      { id, name, applicationIds, gigastake, redirect, policy })
    (fun record =>
      (record.id, record.name, record.applicationIds, record.gigastake, record.redirect,
        record.policy, ()))

end ChainGateway
