import ChainGateway.Config
import ChainGateway.Entity.Blockchain
import ChainGateway.Entity.LoadBalancer
import ChainGateway.Proofs.Json.Records

/-!
# Documents are read back

There are eleven kinds of documents that the gateway reads and writes (`DocumentKind`).  For each of
them, what is written is read back, and a document in which some fields are left out, in the record
itself or in the records within it, is read as the same content with the defaults of these fields
(`DocumentKind.reads_back`).  A document that lacks a field without default is refused.

That the schemas fit their types comes down to this: the names of a record's fields differ, the
record is the one put together from its parts, and texts of a particular form are read as what they
were printed from.  The last is not a matter of documents: a configuration holds a socket address,
which is printed without all that it may hold.
-/

namespace ChainGateway

open Json Net

/-! ## The schemas fit their types -/

section

variable {nesting : Nat}

theorem Credentials.fits (credentials : Credentials) (hnesting : 0 < nesting) :
    Credentials.schema.Fits nesting credentials :=
  ⟨hnesting, rfl, by decide, trivial, trivial, trivial, trivial, trivial, trivial⟩

theorem Application.fits (application : Application) (hnesting : 1 < nesting) :
    Application.schema.Fits nesting application :=
  ⟨by omega, rfl, by decide, trivial, trivial, trivial,
    application.credentials.fits (by omega), trivial⟩

/-- Lists of texts can be written in any form. -/
theorem fits_texts (texts : List String) (hnesting : 0 < nesting) :
    (Schema.list .text).Fits nesting texts :=
  ⟨hnesting, fun _ _ => trivial⟩

theorem Blockchain.fits (chain : Blockchain) (hnesting : 1 < nesting) :
    Blockchain.schema.Fits nesting chain :=
  ⟨by omega, rfl, by decide, trivial, fits_texts _ (by omega), trivial, trivial, trivial, trivial,
    trivial, trivial⟩

theorem StickyPolicy.fits (policy : StickyPolicy) (hnesting : 1 < nesting) :
    StickyPolicy.schema.Fits nesting policy :=
  ⟨by omega, rfl, by decide, trivial, trivial, trivial, fits_texts _ (by omega), trivial⟩

theorem BalancerRecord.fits (record : BalancerRecord) (hnesting : 2 < nesting) :
    BalancerRecord.schema.Fits nesting record :=
  ⟨by omega, rfl, by decide, trivial, trivial, fits_texts _ (by omega), trivial, trivial,
    record.policy.fits (by omega), trivial⟩

theorem Node.fits (node : Node) (hnesting : 0 < nesting) : Node.schema.Fits nesting node :=
  ⟨hnesting, rfl, by decide, trivial, trivial, trivial, trivial⟩

theorem SessionHeader.fits (header : SessionHeader) (hnesting : 0 < nesting) :
    SessionHeader.schema.Fits nesting header :=
  ⟨hnesting, rfl, by decide, trivial, trivial, trivial, trivial⟩

theorem Session.fits (session : Session) (hnesting : 2 < nesting) :
    Session.schema.Fits nesting session :=
  ⟨by omega, rfl, by decide, trivial, session.header.fits (by omega),
    ⟨by omega, fun node _ => node.fits (by omega)⟩, trivial⟩

theorem Token.fits (token : Token) (hnesting : 0 < nesting) : Token.schema.Fits nesting token :=
  ⟨hnesting, rfl, by decide, trivial, trivial, trivial, trivial, trivial⟩

theorem RelayAnswer.fits (answer : RelayAnswer) (hnesting : 0 < nesting) :
    RelayAnswer.schema.Fits nesting answer :=
  ⟨hnesting, rfl, by decide, trivial, trivial, trivial⟩

theorem Plan.fits (plan : Plan) : Plan.schema.Fits nesting plan := by
  cases plan <;> rfl

theorem SessionSettings.fits (settings : SessionSettings) (hnesting : 0 < nesting) :
    SessionSettings.schema.Fits nesting settings :=
  ⟨hnesting, rfl, by decide, trivial, trivial, trivial⟩

theorem StickySettings.fits (settings : StickySettings) (hnesting : 2 < nesting) :
    StickySettings.schema.Fits nesting settings :=
  ⟨by omega, rfl, by decide, trivial, trivial, trivial, settings.defaultPolicy.fits (by omega),
    trivial⟩

theorem CheckSettings.fits (settings : CheckSettings) (hnesting : 0 < nesting) :
    CheckSettings.schema.Fits nesting settings :=
  ⟨hnesting, rfl, by decide, trivial, trivial⟩

/-- A configuration can be written and read back if this is so for the text of its address. -/
theorem Config.fits (config : Config) (hnesting : 3 < nesting)
    (hlistener : SocketAddress.ofText? config.listener.text = some config.listener) :
    Config.schema.Fits nesting config := by
  have haddress : listenerSchema.Fits (nesting - 1) config.listener := by
    simp only [listenerSchema, Schema.Fits, hlistener]
  exact ⟨by omega, rfl, by decide, haddress, fits_texts _ (by omega), rfl, config.plan.fits,
    trivial, config.session.fits (by omega), config.sticky.fits (by omega),
    config.check.fits (by omega), trivial⟩

end

/-! ## Kinds of documents -/

/-- The kinds of documents. -/
inductive DocumentKind where
  | application
  | credentials
  | blockchain
  | stickyPolicy
  | balancer
  | node
  | sessionHeader
  | session
  | token
  | relayAnswer
  | config
  deriving DecidableEq, Repr

namespace DocumentKind

/-- What a document of the kind holds. -/
def Content : DocumentKind → Type
  | application => Application
  | credentials => Credentials
  | blockchain => Blockchain
  | stickyPolicy => StickyPolicy
  | balancer => BalancerRecord
  | node => Node
  | sessionHeader => SessionHeader
  | session => Session
  | token => Token
  | relayAnswer => RelayAnswer
  | config => Config

/-- The document form of the kind. -/
def schema : (kind : DocumentKind) → Schema kind.Content
  | application => Application.schema
  | credentials => Credentials.schema
  | blockchain => Blockchain.schema
  | stickyPolicy => StickyPolicy.schema
  | balancer => BalancerRecord.schema
  | node => Node.schema
  | sessionHeader => SessionHeader.schema
  | session => Session.schema
  | token => Token.schema
  | relayAnswer => RelayAnswer.schema
  | config => Config.schema

/-- Do the texts in the content say all of what they were printed from?  Only a configuration holds
something that is printed: the address it listens on. -/
def IsPrinted : (kind : DocumentKind) → kind.Content → Prop
  | .config, (settings : Config) =>
      SocketAddress.ofText? settings.listener.text = some settings.listener
  | _, _ => True

theorem fits (kind : DocumentKind) {content : kind.Content} (hprinted : kind.IsPrinted content) :
    kind.schema.Fits nestingLimit content := by
  cases kind with
  | application => exact Application.fits content (by decide)
  | credentials => exact Credentials.fits content (by decide)
  | blockchain => exact Blockchain.fits content (by decide)
  | stickyPolicy => exact StickyPolicy.fits content (by decide)
  | balancer => exact BalancerRecord.fits content (by decide)
  | node => exact Node.fits content (by decide)
  | sessionHeader => exact SessionHeader.fits content (by decide)
  | session => exact Session.fits content (by decide)
  | token => exact Token.fits content (by decide)
  | relayAnswer => exact RelayAnswer.fits content (by decide)
  | config => exact Config.fits content (by decide) hprinted

/-- Documents are read back, also with fields left out. -/
theorem reads_back (kind : DocumentKind) {content : kind.Content}
    (hprinted : kind.IsPrinted content) (arrangement : Arrangement) (removal : Removal) :
    kind.schema.decode (kind.schema.encode content) = .ok content ∧
      (¬ kind.schema.Lacks removal content →
        ∃ expected, kind.schema.reset removal content = some expected ∧
          kind.schema.decode (kind.schema.documentWithout arrangement removal content).octets =
            .ok expected) ∧
      (kind.schema.Lacks removal content →
        ∃ error name,
          kind.schema.decode (kind.schema.documentWithout arrangement removal content).octets =
            .error error ∧ error.problem = .missingField name) := by
  have hfits := kind.fits hprinted
  refine ⟨Schema.decode_encode hfits, fun hnotlacks => ?_, Schema.decode_lacking hfits⟩
  rw [← Schema.reset_eq_none_iff, ← ne_eq, Option.ne_none_iff_exists'] at hnotlacks
  obtain ⟨expected, hexpected⟩ := hnotlacks
  exact ⟨expected, hexpected, Schema.decode_without hfits hexpected⟩

/-- The lifetime of sessions is left out of a configuration with another one than the default. -/
theorem reads_back_lifetime :
    config.IsPrinted ({ session := { lifetime := 5 } } : Config) ∧
      ∃ removal : Removal, removal [.field "session", .field "ttl_secs"] = true ∧
        Config.schema.decode (Config.schema.documentWithout .declared removal
          { session := { lifetime := 5 } }).octets = .ok {} := by
  have hprinted : config.IsPrinted ({ session := { lifetime := 5 } } : Config) := by
    show SocketAddress.ofText? _ = some _
    decide +kernel
  obtain ⟨removal, hremoval, hreset⟩ : ∃ removal : Removal,
      removal [.field "session", .field "ttl_secs"] = true ∧
        Config.schema.reset removal { session := { lifetime := 5 } } = some {} :=
    ⟨fun path => path == [.field "session", .field "ttl_secs"], by decide, by decide +kernel⟩
  have hnotlacks : ¬ Config.schema.Lacks removal { session := { lifetime := 5 } } := by
    rw [← Schema.reset_eq_none_iff, hreset]
    exact Option.some_ne_none _
  obtain ⟨expected, hexpected, hdecode⟩ :=
    (reads_back .config hprinted .declared removal).2.1 hnotlacks
  obtain rfl : expected = ({} : Config) := Option.some.inj (hexpected.symm.trans hreset)
  exact ⟨hprinted, removal, hremoval, hdecode⟩

example :
    (Node.schema.documentWithout .declared (fun path => path == [.field "public_key"])
      { address := "a", publicKey := "b", serviceUrl := "c" }).render =
        "\x7b\"address\":\"a\",\"service_url\":\"c\"\x7d" := by
  decide +kernel

end DocumentKind

end ChainGateway
