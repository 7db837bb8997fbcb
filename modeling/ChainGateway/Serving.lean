import ChainGateway.Check.Run
import ChainGateway.ConfigFile
import ChainGateway.HttpServices

/-!
# A gateway from a configuration

With a validated configuration, the documents of its data directory and at least one dispatch
url a gateway can be opened.  Of several things that are missing the first one in this order is
reported.
-/

namespace ChainGateway

/-- The gateway of a configuration, with its documents read from the data directory. -/
def Gateway.ofFiles (files : Files) (config : Config) : Except Error Gateway := do
  config.validate
  let repository ← Repository.load files config.dataDirectory
  checkUrls config.dispatchUrls
  return Gateway.ofConfig config repository

/-- The application and the chains that a check names, the first one that is missing reported. -/
def Gateway.checked (gateway : Gateway) (application : String) (chains : List String) :
    Except Error (Application × List Blockchain) := do
  let application ← gateway.repository.application application
  let chains ← chains.mapM gateway.repository.chain
  return (application, chains)

end ChainGateway
