import ChainGateway.Decimal.Digits

/-!
# Identity of a caller

An affinity key says who a caller is: whom it calls, on which chain and from where.  The number
of the request identifies callers only when they are known by neither an application nor a load
balancer.
-/

namespace ChainGateway.Affinity

/-- The identity of a caller. -/
structure Key where
  rpcId : Int := 0
  balancerId : String := ""
  applicationId : String := ""
  chainId : String := ""
  ip : String := ""
  deriving DecidableEq, Repr, Inhabited

namespace Key

/-- The key of a caller; the request number is dropped when the caller is known otherwise. -/
def ofCaller (rpcId : Int) (balancerId applicationId chainId ip : String) : Key where
  rpcId := if balancerId = "" ∧ applicationId = "" then rpcId else 0
  balancerId := balancerId
  applicationId := applicationId
  chainId := chainId
  ip := ip

/-- An empty key identifies nobody. -/
def isEmpty (key : Key) : Bool :=
  key.balancerId = "" && key.applicationId = "" && decide (key.rpcId ≤ 0)

/-- The text of a key: the application, or else the load balancer, or else the request number,
followed by the address and the chain. -/
def text (key : Key) : String :=
  let caller :=
    if key.applicationId ≠ "" then key.applicationId
    else if key.balancerId ≠ "" then key.balancerId
    else String.ofList (Decimal.integerChars key.rpcId)
  caller ++ "-" ++ key.ip ++ "-" ++ key.chainId

end Key

end ChainGateway.Affinity
