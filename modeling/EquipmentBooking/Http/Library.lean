import EquipmentBooking.Http.Clients

/-! What a library for HTTP does with requests, as far as clients can rely on it. Which URLs it takes,
what it does with user names in them, and how it goes on after the first message is left open. -/
namespace EquipmentBooking

namespace Http

structure Server where
  scheme : List Char
  host : Option Url.Host
  port : Option Nat
  deriving DecidableEq, Repr

/-- What goes over the wire. -/
structure Message where
  method : Method
  server : Server
  target : String
  contentType : Option String
  userAgent : String
  body : Json.Bytes
  deriving DecidableEq, Repr

namespace Message

variable (m : Message)

def path : List Char :=
  m.target.toList.takeWhile (· != '?')

/-- The pairs behind the first question mark of the target. -/
def queryPairs : Pairs :=
  Url.formDecodePairs ((m.target.toList.dropWhile (· != '?')).drop 1)

end Message

end Http

/-- Who is asked. User names and passwords are no part of it. -/
def Url.server (url : Url) : Http.Server :=
  ⟨url.scheme, url.authority.map (·.host), url.authority.bind (·.port)⟩

namespace Http

def Request.message (r : Request) : Message :=
  ⟨r.method, r.url.server, r.target, r.contentType, r.userAgent, r.body⟩

/-- What a request comes to: messages, each chosen by what came back for those before it, and a result. -/
inductive Dealing (Reply : Type) where
  | done (result : Except Failure Answer)
  | send (message : Message) (next : Reply → Dealing Reply)

/-- What comes back for a message. There need not be anybody at the other end. -/
abbrev Wire (Reply σ : Type) := Message → σ → Reply × σ

variable {Reply σ : Type}

/-- Messages are written down in the order in which they are sent. -/
def Dealing.run (wire : Wire Reply σ) :
    Dealing Reply → σ × List Message → Except Failure Answer × σ × List Message
  | done result, state => (result, state)
  | send message next, (state, sent) =>
    let (reply, state) := wire message state
    (next reply).run wire (state, sent ++ [message])

/-- A library: the URLs that it takes, and what it does with a request. -/
structure Library (Reply : Type) where
  Takes : Url → Prop
  perform : Request → Dealing Reply

namespace Library

def onWire (lib : Library Reply) (wire : Wire Reply σ) : Network (σ × List Message) :=
  fun request => (lib.perform request).run wire

/-- What the library promises. Pairs are form-urlencoded, in the query behind those that are there and in
the body alone, and the body of a request without a form or a value is empty. -/
structure Documented (lib : Library Reply) : Prop where
  /-- For a URL that is taken there is a message. -/
  taken : ∀ r, lib.Takes r.asked → ∃ message next, lib.perform r = .send message next
  /-- The first message is the request in written form. -/
  written : ∀ r message next, lib.perform r = .send message next → message = r.message
  /-- Without a message there is no answer. -/
  refused : ∀ r result, lib.perform r = .done result → ∃ failure, result = .error failure

end Library

end Http

end EquipmentBooking
