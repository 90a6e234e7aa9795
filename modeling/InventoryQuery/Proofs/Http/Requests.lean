import InventoryQuery.Http.Transport
import InventoryQuery.Proofs.Results

/-!
# Requests

Which requests a call makes. Whatever is made of the reply, a query is put to a server by asking for
one URL: the request for it is made when the server accepts the connection and the URL is not too
long, and another request is made only where the reply to the one before it names another URL to ask
for instead, ten times at most.
-/

namespace InventoryQuery.Http

/-- The URL that a query text is sent to: the text goes along as a parameter, if there is one. -/
def withQuery (url : Url) : Option String → Url
  | some text => withParameter url "query" text
  | none => url

variable {network : Network} {earlier : List Request} {url : Url} {request : Request}
  {user : Option (String × String)} {limit : Nat}

/-- After some requests, a server at the address accepts a connection. -/
def Network.Accepts (network : Network) (earlier : List Request) (address : Address) : Prop :=
  (network earlier address).isSome = true

instance (network : Network) (earlier : List Request) (address : Address) :
    Decidable (network.Accepts earlier address) :=
  decEq _ _

/-- The reply to a request after some others, if one arrives. -/
def Network.reply? (network : Network) (earlier : List Request) (request : Request) :
    Option Reply :=
  (network earlier request.address).bind fun answer => (answer request).received?

/-- No reply names a place to ask instead. -/
def Network.NeverRedirects (network : Network) : Prop :=
  ∀ earlier request reply, network.reply? earlier request = some reply →
    isRedirect reply.status = true → reply.location = none

/-- The replies to a request for a URL, made after some others, and to the requests behind it lead
to these: each asks for the URL that the reply to the one before it names. -/
inductive LeadsOn (network : Network) : List Request → Url → Request → List Request → Prop
  | stop {earlier : List Request} {url : Url} {request : Request} :
      LeadsOn network earlier url request []
  | on {earlier : List Request} {url : Url} {request : Request} {reply : Reply} {next : Url}
      {following : Request} {rest : List Request}
      (hreply : network.reply? earlier request = some reply)
      (hnext : reply.next? url = some next)
      (hfollowing : requestFor? next (userFor request.user url next) = some following)
      (hrest : LeadsOn network (earlier ++ [request]) next following rest) :
      LeadsOn network earlier url request (following :: rest)

/-- The requests that the search for a reply consists of: none, or one for a URL and those to which
the replies lead, up to the limit. -/
inductive IsTrail (network : Network) : List Request → Prop
  | nothing : IsTrail network []
  | start {url : Url} {request : Request} {rest : List Request}
      (hrequest : requestFor? url request.user = some request)
      (hrest : LeadsOn network [] url request rest) (hlength : rest.length ≤ maxRedirects) :
      IsTrail network (request :: rest)

/-- Where no reply names a place to ask instead, no request comes after another. -/
theorem LeadsOn.eq_nil {rest : List Request} (h : LeadsOn network earlier url request rest)
    (hnever : network.NeverRedirects) : rest = [] := by
  cases h with
  | stop => rfl
  | on hreply hnext hfollowing hrest =>
    rw [Reply.next?] at hnext
    split at hnext
    · next hredirect =>
      rw [hnever _ _ _ hreply hredirect] at hnext
      exact absurd hnext nofun
    · exact absurd hnext nofun

/-- A trail has eleven requests at most. -/
theorem IsTrail.length_le {requests : List Request} (h : IsTrail network requests) :
    requests.length ≤ maxRedirects + 1 := by
  cases h with
  | nothing => exact Nat.zero_le _
  | start _ _ hlength => exact Nat.succ_le_succ hlength

/-- Where no reply names a place to ask instead, a trail has one request at most. -/
theorem IsTrail.length_le_one {requests : List Request} (h : IsTrail network requests)
    (hnever : network.NeverRedirects) : requests.length ≤ 1 := by
  cases h with
  | nothing => exact Nat.zero_le 1
  | start _ hrest _ =>
    rw [hrest.eq_nil hnever]
    exact Nat.le_refl 1

/-- A request is made on behalf of the user for whom the URL is asked for. -/
theorem user_of_requestFor? (h : requestFor? url user = some request) : request.user = user := by
  obtain ⟨address, -, rfl⟩ := Option.map_eq_some_iff.mp h
  rfl

/-- A request is made if its address accepts the connection. -/
theorem Network.requests_ask (network : Network) (earlier : List Request) (request : Request) :
    (network.ask earlier request).requests =
      if network.Accepts earlier request.address then [request] else [] := by
  cases hanswer : network earlier request.address with
  | none =>
    have hrefused : ¬ network.Accepts earlier request.address := by simp [Accepts, hanswer]
    rw [Network.ask, hanswer, if_neg hrefused]
    rfl
  | some answer =>
    have haccepts : network.Accepts earlier request.address := by simp [Accepts, hanswer]
    rw [Network.ask, hanswer, if_pos haccepts]
    simp only [Activity.requests_send_bind]
    cases (answer request).received? <;> rfl

/-- A request ends with the reply to it, if one arrives. -/
theorem Network.result_ask (network : Network) (earlier : List Request) (request : Request) :
    (network.ask earlier request).result =
      match network.reply? earlier request with
      | some reply => .ok reply
      | none => .error .exchange := by
  rw [Network.ask, Network.reply?]
  cases network earlier request.address with
  | none => rfl
  | some answer =>
    simp only [Option.bind_some]
    cases (answer request).received? <;> rfl

section AskFor

variable {goOn : Request → Url → Activity Request Reply}

/-- A URL that names no address of the web is not asked for. -/
theorem Network.requests_askFor_of_no_request (hrequest : requestFor? url user = none) :
    (network.askFor earlier user url goOn).requests = [] := by
  rw [Network.askFor, hrequest]
  rfl

/-- A URL whose address refuses the connection is not asked for. -/
theorem Network.requests_askFor_of_refused (hrequest : requestFor? url user = some request)
    (hrefused : ¬ network.Accepts earlier request.address) :
    (network.askFor earlier user url goOn).requests = [] := by
  have hnone : network.reply? earlier request = none := by
    rw [Network.reply?, Option.not_isSome_iff_eq_none.mp hrefused, Option.bind_none]
  have hresult := network.result_ask earlier request
  rw [hnone] at hresult
  rw [Network.askFor, hrequest]
  refine (Activity.requests_bind_error hresult _).trans ?_
  rw [Network.requests_ask, if_neg hrefused]

/-- A URL whose address accepts the connection is asked for, and what comes after the request is done
for the URL that the reply names. -/
theorem Network.requests_askFor (hrequest : requestFor? url user = some request)
    (haccepts : network.Accepts earlier request.address) :
    (network.askFor earlier user url goOn).requests =
      request :: ((network.reply? earlier request).bind (·.next? url)).elim []
        fun next => (goOn request next).requests := by
  have hask : (network.ask earlier request).requests = [request] := by
    rw [Network.requests_ask, if_pos haccepts]
  have hresult := network.result_ask earlier request
  rw [Network.askFor, hrequest]
  cases hreply : network.reply? earlier request with
  | none =>
    rw [hreply] at hresult
    exact (Activity.requests_bind_error hresult _).trans hask
  | some reply =>
    rw [hreply] at hresult
    refine (Activity.requests_bind_ok hresult _).trans ?_
    rw [hask, List.singleton_append, Option.bind_some]
    cases reply.next? url <;> rfl

/-- Asking for a URL ends with the reply to the request for it unless that names another one. -/
theorem Network.result_askFor {reply : Reply} (hrequest : requestFor? url user = some request)
    (hreply : network.reply? earlier request = some reply) (hlast : reply.next? url = none) :
    (network.askFor earlier user url goOn).result = .ok reply := by
  have hresult := network.result_ask earlier request
  rw [hreply] at hresult
  rw [Network.askFor, hrequest]
  refine (Activity.result_bind_ok hresult _).trans ?_
  rw [hlast]
  rfl

end AskFor

/-- Following the replies starts by asking for the URL. -/
theorem Network.exists_follow_eq_askFor (network : Network) (limit : Nat) (earlier : List Request)
    (user : Option (String × String)) (url : Url) :
    ∃ goOn, network.follow limit earlier user url = network.askFor earlier user url goOn := by
  cases limit with
  | zero => exact ⟨_, by rw [Network.follow]⟩
  | succ limit => exact ⟨_, by rw [Network.follow]⟩

/-- A URL whose address accepts the connection is asked for, and further requests are made only
where the replies lead to them, up to the limit. -/
theorem Network.requests_follow (hrequest : requestFor? url user = some request)
    (haccepts : network.Accepts earlier request.address) :
    ∃ rest, (network.follow limit earlier user url).requests = request :: rest ∧
      LeadsOn network earlier url request rest ∧ rest.length ≤ limit := by
  induction limit generalizing earlier user url request with
  | zero =>
    refine ⟨[], ?_, .stop, Nat.le_refl 0⟩
    rw [Network.follow, Network.requests_askFor hrequest haccepts]
    cases (network.reply? earlier request).bind (·.next? url) <;> rfl
  | succ limit ih =>
    rw [Network.follow, Network.requests_askFor hrequest haccepts]
    cases hnext : (network.reply? earlier request).bind (·.next? url) with
    | none => exact ⟨[], rfl, .stop, Nat.zero_le _⟩
    | some next =>
      obtain ⟨reply, hreply, hnext⟩ := Option.bind_eq_some_iff.mp hnext
      rw [Option.elim_some]
      obtain ⟨goOn, hfollow⟩ := network.exists_follow_eq_askFor limit (earlier ++ [request])
        (userFor user url next) next
      cases hfollowing : requestFor? next (userFor user url next) with
      | none =>
        rw [hfollow, Network.requests_askFor_of_no_request hfollowing]
        exact ⟨[], rfl, .stop, Nat.zero_le _⟩
      | some following =>
        by_cases hopen : network.Accepts (earlier ++ [request]) following.address
        · obtain ⟨rest, hrest, hleads, hlength⟩ := ih hfollowing hopen
          rw [← user_of_requestFor? hrequest] at hfollowing
          exact ⟨following :: rest, by rw [hrest], .on hreply hnext hfollowing hleads,
            Nat.succ_le_succ hlength⟩
        · rw [hfollow, Network.requests_askFor_of_refused hfollowing hopen]
          exact ⟨[], rfl, .stop, Nat.zero_le _⟩

/-- A URL is asked for if it is short enough and its address accepts the connection, and further
requests are made only where the replies lead to them. -/
theorem requests_exchange (hfits : fits (askedFor url) = true)
    (hrequest : requestFor? (askedFor url) (userOf? url) = some request)
    (haccepts : network.Accepts [] request.address) :
    ∃ rest, (exchange network url).requests = request :: rest ∧
      LeadsOn network [] (askedFor url) request rest ∧ rest.length ≤ maxRedirects := by
  rw [exchange, if_pos hfits]
  exact Network.requests_follow hrequest haccepts

/-- A URL that is too long is not asked for. -/
theorem requests_exchange_of_not_fits (hlong : fits (askedFor url) = false) (network : Network) :
    (exchange network url).requests = [] := by
  simp only [exchange, hlong, Bool.false_eq_true, if_false, Activity.requests_fail]

/-- A URL whose address refuses the connection is not asked for. -/
theorem requests_exchange_of_refused
    (hrequest : requestFor? (askedFor url) (userOf? url) = some request)
    (hrefused : ¬ network.Accepts [] request.address) : (exchange network url).requests = [] := by
  obtain ⟨goOn, hfollow⟩ :=
    network.exists_follow_eq_askFor maxRedirects [] (userOf? url) (askedFor url)
  rw [exchange, hfollow]
  split
  · exact Network.requests_askFor_of_refused hrequest hrefused
  · rfl

/-- An exchange makes the requests of a trail. -/
theorem isTrail_exchange (network : Network) (url : Url) :
    IsTrail network (exchange network url).requests := by
  cases hfits : fits (askedFor url) with
  | false =>
    rw [requests_exchange_of_not_fits hfits]
    exact .nothing
  | true =>
    cases hrequest : requestFor? (askedFor url) (userOf? url) with
    | none =>
      obtain ⟨goOn, hfollow⟩ :=
        network.exists_follow_eq_askFor maxRedirects [] (userOf? url) (askedFor url)
      rw [exchange, if_pos hfits, hfollow, Network.requests_askFor_of_no_request hrequest]
      exact .nothing
    | some request =>
      by_cases haccepts : network.Accepts [] request.address
      · obtain ⟨rest, hrequests, hrest, hlength⟩ := requests_exchange hfits hrequest haccepts
        rw [hrequests]
        rw [← user_of_requestFor? hrequest] at hrequest
        exact .start hrequest hrest hlength
      · rw [requests_exchange_of_refused hrequest haccepts]
        exact .nothing

/-- An exchange ends with the reply to the request for its URL unless that names another one. -/
theorem result_exchange {reply : Reply} (hfits : fits (askedFor url) = true)
    (hrequest : requestFor? (askedFor url) (userOf? url) = some request)
    (hreply : network.reply? [] request = some reply) (hlast : reply.next? (askedFor url) = none) :
    (exchange network url).result = .ok reply := by
  obtain ⟨goOn, hfollow⟩ :=
    network.exists_follow_eq_askFor maxRedirects [] (userOf? url) (askedFor url)
  rw [exchange, if_pos hfits, hfollow]
  exact Network.result_askFor hrequest hreply hlast

/-- What is made of a reply that reports no success involves no request. -/
theorem requests_refuse (url : Url) (reply : Reply) : (refuse url reply).requests = [] := by
  rw [refuse]
  cases reply.text? <;> rfl

/-- The requests for a query are those of the exchange for its URL. -/
theorem requests_get {server : Server} {path : String} (hurl : server.urlFor path = .ok url)
    (network : Network) (query : Option String) :
    (server.get network path query).requests = (exchange network (withQuery url query)).requests := by
  rw [Server.get, hurl]
  simp only [mapError_ok, Activity.ofExcept_ok_bind, Activity.requests_write_bind]
  refine Eq.trans (Activity.requests_bind_of_forall_eq_nil ?_) (by cases query <;> rfl)
  intro reply
  split
  · cases reply.text? <;> rfl
  · exact requests_refuse url reply

/-- A query that is replied to with success ends with the value in the body. -/
theorem result_get {server : Server} {path body : String} {query : Option String} {reply : Reply}
    (hurl : server.urlFor path = .ok url)
    (hreply : (exchange network (withQuery url query)).result = .ok reply)
    (hsuccess : isSuccess reply.status = true) (hbody : reply.text? = some body) :
    (server.get network path query).result =
      (Json.parse body).mapError fun fault => .notJson fault body := by
  rw [Server.get, hurl, mapError_ok, Activity.ofExcept_ok_bind]
  refine (Activity.result_bind_ok rfl _).trans ?_
  refine (Activity.result_bind_ok hreply _).trans ?_
  rw [if_pos hsuccess, hbody]
  rfl

/-- A query is put to a server by the requests of a trail. -/
theorem isTrail_get (server : Server) (network : Network) (path : String) (query : Option String) :
    IsTrail network (server.get network path query).requests := by
  cases hurl : server.urlFor path with
  | error e =>
    rw [Server.get, hurl]
    exact .nothing
  | ok url =>
    rw [requests_get hurl]
    exact isTrail_exchange network (withQuery url query)

/-- The server on a port of the local machine, with a version of its interface. -/
def localServer (apiVersion : String) : Server where
  base :=
    { scheme := "http"
      authority := some { host := some (.ipv6 [0, 0, 0, 0, 0, 0, 0, 1]), port := some 47123 }
      path := ['/'] }
  apiVersion

/-- A network on which every reply names the root to ask for instead. -/
def redirecting : Network := fun _ _ => some fun _ => { status := 302, location := some "/" }

end InventoryQuery.Http

namespace InventoryQuery.Client

variable {ρ : Type}

/-- The names of nodes are asked for by the requests of one query. -/
theorem requests_nodes (transport : Transport ρ) (query : Option Predicate) :
    (nodes transport query).requests =
      (transport.get Endpoint.nodes.path (query.map (Predicate.render · .nodes))).requests := by
  rw [nodes]
  refine Activity.requests_bind_of_forall_eq_nil fun answer => ?_
  cases nodeNames answer <;> rfl

/-- Facts are asked for by the requests of one query. -/
theorem requests_facts (transport : Transport ρ) (names : List String) (query : Option Predicate) :
    (facts transport names query).requests =
      (transport.get Endpoint.facts.path
        ((factsQuery names query).map (Predicate.render · .facts))).requests := by
  rw [facts]
  refine Activity.requests_bind_of_forall_eq_nil fun answer => ?_
  cases FactMap.ofAnswer answer <;> rfl

end InventoryQuery.Client
