import InventoryQuery.Proofs.Http.Requests
import InventoryQuery.Proofs.Predicate.Unambiguous
import InventoryQuery.Proofs.Text.Form
import InventoryQuery.Proofs.Url.Host
import InventoryQuery.Proofs.Url.PlainPath

/-!
# Queries on the wire

What a server gets to see of a query. The target of the request is the path of the endpoint below
the version of the interface, and the query text is read back from the one parameter behind it. So
queries that differ never become requests for the same target. The only limit is the length of the
URL: a query that makes it too long is not sent at all. What is asked for after the request is up to
the replies, and need not have to do with the query.
-/

namespace InventoryQuery.Http

/-- A server of the web without encryption, for which the version of the interface is a path of
plain segments. -/
structure Server.IsPlain (server : Server) : Prop where
  exists_base : ∃ text, Url.parse text = .ok server.base
  scheme_eq : server.base.scheme = "http"
  exists_version : ∃ segments, (∀ segment ∈ segments, Url.IsPlainSegment segment) ∧
    server.apiVersion = Url.pathOf segments

/-- A target carries a query text to a path: it is the path alone where there is no text, and
otherwise the path and a parameter whose value is read back as the text. -/
def Carries (target path : String) : Option String → Prop
  | none => target = path
  | some text =>
    ∃ value, target = path ++ "?query=" ++ value ∧ Text.formDecode? value.toList = some text

/-- All characters of a text are printable ASCII, and none is a space. -/
def IsPrintable (text : String) : Prop := ∀ c ∈ text.toList, 0x20 < c.toNat ∧ c.toNat < 0x7f

/-- The text of a URL in front of its path. -/
def originOf (url : Url) : String :=
  String.ofList (url.scheme.toList ++ ':' :: url.authorityText)

/-- What becomes of a target that is asked for at the address of a URL. If the address accepts the
connection and the whole URL, without the user and the password, is not too long, there is a request
for it; others come behind it only where the replies lead to them, ten at most, and none where no
reply names a place to ask instead. Otherwise there is no request. -/
structure IsAskedFor (network : Network) (base : Url) (address : Address) (target : String)
    (requests : List Request) : Prop where
  exists_rest : (originOf (askedFor base) ++ target).length ≤ maxUrlLength →
    network.Accepts [] address →
      ∃ url rest, url.toText = originOf (askedFor base) ++ target ∧
        requests = ⟨address, target, userOf? base⟩ :: rest ∧
        LeadsOn network [] url ⟨address, target, userOf? base⟩ rest ∧
        rest.length ≤ maxRedirects ∧ (network.NeverRedirects → rest = [])
  eq_nil : ¬ ((originOf (askedFor base) ++ target).length ≤ maxUrlLength ∧
    network.Accepts [] address) → requests = []

/-- A query text is put to a path of a server by asking the server for a printable target that
carries the text. -/
def Server.Delivers (server : Server) (network : Network) (path : String) (text : Option String)
    (requests : List Request) : Prop :=
  ∃ address target, addressOf? server.base = some address ∧
    Carries target (server.apiVersion ++ path) text ∧ IsPrintable target ∧
    IsAskedFor network server.base address target requests

/-- Texts of printable characters make up a text of printable characters. -/
theorem IsPrintable.append {front back : String} (hfront : IsPrintable front)
    (hback : IsPrintable back) : IsPrintable (front ++ back) := by
  intro c hc
  rw [String.toList_append, List.mem_append] at hc
  exact hc.elim (hfront c) (hback c)

/-- The characters of a plain path are printable. -/
theorem isPrintable_pathOf {segments : List String}
    (hplain : ∀ segment ∈ segments, Url.IsPlainSegment segment) :
    IsPrintable (Url.pathOf segments) := by
  intro c hc
  rcases Url.eq_slash_or_isSegmentChar hplain hc with rfl | hc
  · decide
  · have hlow := (Url.props_of_isSegmentChar hc).1
    have hhigh := Url.toNat_lt_of_isSegmentChar hc
    omega

/-- The URL for a path, with a query text as its only parameter. -/
def urlWith (base : Url) (path : String) (text : Option String) : Url :=
  withQuery { base with path := path.toList, query := none, fragment := none } text

/-- Without a query text the target is the path. -/
theorem targetOf_urlWith_none (base : Url) (path : String) :
    targetOf (urlWith base path none) = path := by
  simp [urlWith, withQuery, targetOf, Url.markedText]

/-- With a query text the target is the path and the encoded text behind the name of the
parameter. -/
theorem targetOf_urlWith_some (base : Url) (path text : String) :
    targetOf (urlWith base path (some text)) =
      path ++ "?query=" ++ String.ofList (Text.formEncode text.toList) := by
  have hname : Text.formEncode ['q', 'u', 'e', 'r', 'y'] = ['q', 'u', 'e', 'r', 'y'] := by decide
  apply String.toList_inj.mp
  simp [urlWith, withQuery, withParameter, targetOf, Url.markedText, hname]

/-- The target of a URL with a query text carries the text. -/
theorem carries_targetOf (base : Url) (path : String) (text : Option String) :
    Carries (targetOf (urlWith base path text)) path text := by
  cases text with
  | none => exact targetOf_urlWith_none base path
  | some text =>
    refine ⟨_, targetOf_urlWith_some base path text, ?_⟩
    rw [String.toList_ofList, Text.formDecode?_formEncode, String.ofList_toList]

/-- The target of a URL with a printable path and a query text is printable. -/
theorem isPrintable_targetOf (base : Url) {path : String} (hpath : IsPrintable path)
    (text : Option String) : IsPrintable (targetOf (urlWith base path text)) := by
  cases text with
  | none => rwa [targetOf_urlWith_none]
  | some text =>
    have hname : IsPrintable "?query=" := by
      have hall : "?query=".toList.all (fun c => 0x20 < c.toNat && c.toNat < 0x7f) = true := by decide
      intro c hc
      simpa using List.all_eq_true.mp hall c hc
    have hvalue : IsPrintable (String.ofList (Text.formEncode text.toList)) := by
      intro c hc
      rw [String.toList_ofList] at hc
      exact Text.toNat_of_isFormChar (Text.isFormChar_of_mem_formEncode hc)
    rw [targetOf_urlWith_some]
    exact (hpath.append hname).append hvalue

/-- What stands behind a path without question marks starts with the first one. -/
theorem dropWhile_path_append {path : String} (hpath : '?' ∉ path.toList) (rest : String) :
    (path ++ rest).toList.dropWhile (· != '?') = rest.toList.dropWhile (· != '?') := by
  rw [String.toList_append]
  refine List.dropWhile_append_of_pos fun c hc => ?_
  exact bne_iff_ne.mpr fun heq => hpath (heq ▸ hc)

/-- Behind a path without question marks a target has nothing or the parameter with a text. -/
theorem Carries.eq_nil_or {target path : String} {text : Option String}
    (h : Carries target path text) (hpath : '?' ∉ path.toList) :
    (text = none ∧ target.toList.dropWhile (· != '?') = []) ∨
      ∃ value : String, text = Text.formDecode? value.toList ∧
        target.toList.dropWhile (· != '?') = "?query=".toList ++ value.toList := by
  cases text with
  | none =>
    left
    have hdrop := dropWhile_path_append hpath ""
    rw [String.append_empty, ← show target = path from h] at hdrop
    exact ⟨rfl, hdrop⟩
  | some text =>
    right
    obtain ⟨value, rfl, hvalue⟩ := h
    refine ⟨value, hvalue.symm, ?_⟩
    rw [String.append_assoc, dropWhile_path_append hpath]
    simp

/-- A target carries one query text, or none, to paths without question marks. -/
theorem Carries.unique {target path other : String} {text otherText : Option String}
    (h : Carries target path text) (hother : Carries target other otherText)
    (hpath : '?' ∉ path.toList) (hotherPath : '?' ∉ other.toList) : text = otherText := by
  rcases h.eq_nil_or hpath with ⟨rfl, hnil⟩ | ⟨value, rfl, hvalue⟩
  · rcases hother.eq_nil_or hotherPath with ⟨rfl, -⟩ | ⟨value, -, hvalue⟩
    · rfl
    · rw [hnil] at hvalue
      exact absurd hvalue.symm (by simp)
  · rcases hother.eq_nil_or hotherPath with ⟨-, hnil⟩ | ⟨otherValue, rfl, hotherValue⟩
    · rw [hnil] at hvalue
      exact absurd hvalue.symm (by simp)
    · rw [hvalue] at hotherValue
      rw [List.append_cancel_left hotherValue]

/-- No question mark occurs in a plain path. -/
theorem question_notMem_pathOf {segments : List String}
    (hplain : ∀ segment ∈ segments, Url.IsPlainSegment segment) :
    '?' ∉ (Url.pathOf segments).toList := by
  intro h
  rcases Url.eq_slash_or_isSegmentChar hplain h with h | h
  · exact absurd h (by decide)
  · exact absurd h (by decide)

/-- The address of a URL does not depend on the user and the password. -/
theorem addressOf?_askedFor (url : Url) : addressOf? (askedFor url) = addressOf? url := by
  rw [askedFor]
  split
  · rw [addressOf?, addressOf?]
    cases url.authority <;> rfl
  · rfl

/-- A URL has its host whether or not the user and the password are taken away. -/
theorem hasHost_askedFor {url : Url} (hhost : url.HasHost) : (askedFor url).HasHost := by
  obtain ⟨authority, host, hauthority, hname⟩ := hhost
  rw [askedFor]
  split
  · exact ⟨{ authority with username := "", password := "" }, host, by rw [hauthority]; rfl, hname⟩
  · exact ⟨authority, host, hauthority, hname⟩

/-- The user of a URL does not depend on what is behind the authority. -/
theorem userOf?_urlWith (base : Url) (path : String) (text : Option String) :
    userOf? (urlWith base path text) = userOf? base := by
  cases text <;> rfl

/-- The user and the password are taken away alike from every URL with the same authority. -/
theorem askedFor_urlWith (base : Url) (path : String) (text : Option String) :
    askedFor (urlWith base path text) = urlWith (askedFor base) path text := by
  rw [askedFor, askedFor, userOf?_urlWith]
  split
  · cases text <;> rfl
  · rfl

/-- The request for a path of a server goes to the address of the server. -/
theorem requestFor?_urlWith {base : Url} {address : Address}
    (haddress : addressOf? base = some address) (path : String) (text : Option String)
    (user : Option (String × String)) :
    requestFor? (urlWith base path text) user =
      some ⟨address, targetOf (urlWith base path text), user⟩ := by
  have hsame : addressOf? (urlWith base path text) = addressOf? base := by cases text <;> rfl
  rw [requestFor?, hsame, haddress, Option.map_some]

/-- A URL with a host is its origin and its target. -/
theorem toText_urlWith {base : Url} (hhost : base.HasHost) (path : String) (text : Option String) :
    (urlWith base path text).toText = originOf base ++ targetOf (urlWith base path text) := by
  obtain ⟨authority, host, hauthority, -⟩ := hhost
  apply String.toList_inj.mp
  cases text <;>
    simp [Url.toText, Url.toChars, urlWith, withQuery, withParameter, originOf, targetOf,
      Url.authorityText, hauthority, Url.markedText]

/-- A plain server has a host, an address, and URLs for plain paths below its version. -/
theorem Server.IsPlain.hasHost {server : Server} (hserver : server.IsPlain) :
    server.base.HasHost ∧ server.base.kind = .web := by
  obtain ⟨text, hparse⟩ := hserver.exists_base
  have hweb : server.base.kind = .web := by
    rw [Url.kind, hserver.scheme_eq]
    decide
  exact ⟨Url.hasHost_of_parse hparse hweb, hweb⟩

/-- A server with a host and the scheme of the web has an address. -/
theorem Server.IsPlain.exists_address {server : Server} (hserver : server.IsPlain) :
    ∃ address, addressOf? server.base = some address := by
  obtain ⟨⟨authority, host, hauthority, hhost⟩, -⟩ := hserver.hasHost
  refine ⟨⟨false, host, authority.port.getD 80⟩, ?_⟩
  cases hport : authority.port <;>
    simp [addressOf?, hserver.scheme_eq, hauthority, hhost, hport, Url.defaultPort?]

/-- The paths of the endpoints below the version of a plain server are plain. -/
theorem Server.IsPlain.exists_path {server : Server} (hserver : server.IsPlain)
    (endpoint : Endpoint) :
    ∃ segments, segments ≠ [] ∧ (∀ segment ∈ segments, Url.IsPlainSegment segment) ∧
      server.apiVersion ++ endpoint.path = Url.pathOf segments := by
  obtain ⟨segments, hplain, hversion⟩ := hserver.exists_version
  obtain ⟨name, hname, hpath⟩ : ∃ name, Url.IsPlainSegment name ∧ endpoint.path = "/" ++ name := by
    cases endpoint with
    | nodes => exact ⟨"nodes", ⟨by decide, List.all_eq_true.mp (by decide)⟩, rfl⟩
    | facts => exact ⟨"facts", ⟨by decide, List.all_eq_true.mp (by decide)⟩, rfl⟩
  refine ⟨segments ++ [name], by simp, ?_, ?_⟩
  · intro segment hsegment
    rcases List.mem_append.mp hsegment with hsegment | hsegment
    · exact hplain segment hsegment
    · rwa [List.mem_singleton.mp hsegment]
  · rw [Url.pathOf_append_singleton, hversion, hpath]

/-- What is asked for at the URL of a path and a query text. -/
theorem isAskedFor_urlWith {base : Url} {address : Address} (hhost : base.HasHost)
    (haddress : addressOf? base = some address) (network : Network) (path : String)
    (text : Option String) :
    IsAskedFor network base address (targetOf (urlWith base path text))
      (exchange network (urlWith base path text)).requests := by
  have htarget : targetOf (urlWith (askedFor base) path text) = targetOf (urlWith base path text) := by
    cases text <;> rfl
  have huser := userOf?_urlWith base path text
  have hasked := askedFor_urlWith base path text
  have hsent := toText_urlWith (hasHost_askedFor hhost) path text
  have hrequest := requestFor?_urlWith ((addressOf?_askedFor base).trans haddress) path text
    (userOf? base)
  rw [htarget, ← hasked] at hsent hrequest
  rw [← huser] at hrequest
  have hfits : fits (askedFor (urlWith base path text)) =
      decide ((originOf (askedFor base) ++ targetOf (urlWith base path text)).length ≤
        maxUrlLength) := by
    rw [← hsent, fits, Url.toText, String.length_ofList]
  refine ⟨fun hshort haccepts => ?_, fun hstays => ?_⟩
  · obtain ⟨rest, hrequests, hrest, hlength⟩ :=
      requests_exchange (hfits.trans (decide_eq_true hshort)) hrequest haccepts
    rw [huser] at hrequests hrest
    exact ⟨_, rest, hsent, hrequests, hrest, hlength, hrest.eq_nil⟩
  · by_cases haccepts : network.Accepts [] address
    · have hlong := fun hshort => hstays ⟨hshort, haccepts⟩
      exact requests_exchange_of_not_fits (hfits.trans (decide_eq_false hlong)) network
    · exact requests_exchange_of_refused hrequest haccepts

/-- A query text that is put to the path of an endpoint of a plain server is delivered. -/
theorem Server.IsPlain.delivers_get {server : Server} (hserver : server.IsPlain)
    (network : Network) (endpoint : Endpoint) (text : Option String) :
    server.Delivers network endpoint.path text (server.get network endpoint.path text).requests := by
  obtain ⟨hhost, hweb⟩ := hserver.hasHost
  obtain ⟨address, haddress⟩ := hserver.exists_address
  obtain ⟨segments, hsome, hplain, hpath⟩ := hserver.exists_path endpoint
  have hauthority : server.base.authority.isSome = true := by
    obtain ⟨authority, _, hauthority, -⟩ := hhost
    rw [hauthority]
    rfl
  have hfile : server.base.kind ≠ .file := by
    rw [hweb]
    decide
  have hurl : server.urlFor endpoint.path = .ok
      { server.base with path := (Url.pathOf segments).toList, query := none, fragment := none } := by
    rw [Server.urlFor, hpath]
    exact Url.join_pathOf hfile hauthority hsome hplain
  rw [requests_get hurl, ← urlWith, Server.Delivers, hpath]
  exact ⟨address, _, haddress, carries_targetOf server.base _ text,
    isPrintable_targetOf server.base (isPrintable_pathOf hplain) text,
    isAskedFor_urlWith hhost haddress network _ text⟩

/-- The first request for a delivered query text carries it. -/
theorem Server.Delivers.carries {server : Server} {network : Network} {path : String}
    {text : Option String} {requests : List Request} (h : server.Delivers network path text requests)
    {request : Request} (hrequest : request ∈ requests.head?) :
    Carries request.target (server.apiVersion ++ path) text := by
  obtain ⟨address, target, -, hcarries, -, hasked⟩ := h
  by_cases hsends : (originOf (askedFor server.base) ++ target).length ≤ maxUrlLength ∧
      network.Accepts [] address
  · obtain ⟨url, rest, -, rfl, -⟩ := hasked.exists_rest hsends.1 hsends.2
    obtain rfl := Option.some.inj hrequest
    exact hcarries
  · rw [hasked.eq_nil hsends] at hrequest
    exact absurd hrequest nofun

/-- First requests of two calls at one endpoint for the same target carry the same query text. -/
theorem Server.Delivers.unique {server other : Server} (hserver : server.IsPlain)
    (hother : other.IsPlain) {network otherNetwork : Network} {endpoint : Endpoint}
    {text otherText : Option String} {requests otherRequests : List Request}
    (h : server.Delivers network endpoint.path text requests)
    (hdelivers : other.Delivers otherNetwork endpoint.path otherText otherRequests)
    {request otherRequest : Request} (hrequest : request ∈ requests.head?)
    (hotherRequest : otherRequest ∈ otherRequests.head?)
    (htarget : request.target = otherRequest.target) : text = otherText := by
  obtain ⟨segments, -, hplain, hpath⟩ := hserver.exists_path endpoint
  obtain ⟨otherSegments, -, hotherPlain, hotherPath⟩ := hother.exists_path endpoint
  have hcarries := h.carries hrequest
  have hotherCarries := hdelivers.carries hotherRequest
  rw [htarget, hpath] at hcarries
  rw [hotherPath] at hotherCarries
  exact hcarries.unique hotherCarries (question_notMem_pathOf hplain)
    (question_notMem_pathOf hotherPlain)

/-- A query text that goes along with a URL that is short enough is short as well. -/
theorem length_le_of_fits {url : Url} {text : String}
    (hfits : fits (askedFor (withQuery url (some text))) = true) : text.length ≤ maxUrlLength := by
  have hle := Text.length_le_length_formEncode text.toList
  rw [String.length_toList] at hle
  have hquery : (askedFor (withQuery url (some text))).query = (withQuery url (some text)).query := by
    rw [askedFor]
    split <;> rfl
  rw [fits, decide_eq_true_iff, Url.toChars, hquery, withQuery, withParameter] at hfits
  split at hfits <;>
    (simp [Url.markedText] at hfits
     omega)

/-- A text is no longer than its string literal. -/
theorem length_le_length_quote (s : List Char) : s.length ≤ (Json.quote s).length := by
  have hescape (c : Char) : Json.escapeChar c ≠ [] := by
    unfold Json.escapeChar
    split_ifs <;> exact List.cons_ne_nil _ _
  have hle := Text.length_le_length_flatMap hescape s
  rw [Json.quote, List.length_cons, List.length_append]
  omega

/-- The query for the node with a name is longer than the name. -/
theorem length_le_length_render_node (name : String) :
    name.length ≤ ((Predicate.node { identifier := name }).render .nodes).length := by
  have hquote := length_le_length_quote name.toList
  rw [String.length_toList] at hquote
  simp only [Predicate.render, Predicate.node, Predicate.toQuery, Leaf.toQuery, Json.comparison,
    Json.compact, Json.print, Json.printItems, String.length_ofList, List.length_append,
    List.length_cons]
  omega

/-- A node whose name alone is too long for a URL is not asked for. -/
theorem requests_nodes_of_long_name (server : Server) (network : Network) {name : String}
    (hname : maxUrlLength < name.length) :
    (Client.nodes (server.transport network)
      (some (Predicate.node { identifier := name }))).requests = [] := by
  rw [Client.requests_nodes]
  change (server.get network Endpoint.nodes.path _).requests = []
  cases hurl : server.urlFor Endpoint.nodes.path with
  | error e => simp [Server.get, hurl]
  | ok url =>
    rw [requests_get hurl]
    refine requests_exchange_of_not_fits (Bool.eq_false_iff.mpr fun hfits => ?_) network
    exact absurd (length_le_length_render_node name)
      (Nat.not_le.mpr (Nat.lt_of_le_of_lt (length_le_of_fits hfits) hname))

/-- A text of a query, or none, stands for one predicate, or none. -/
theorem map_render_injective {endpoint : Endpoint} {p q : Option Predicate}
    (h : p.map (Predicate.render · endpoint) = q.map (Predicate.render · endpoint)) : p = q := by
  refine Option.map_injective ?_ h
  intro a b hrender
  exact Predicate.toQuery_injective (Json.compact_injective (Predicate.toQuery_isPlain endpoint a)
    (Predicate.toQuery_isPlain endpoint b) hrender)

/-- A call for nodes delivers the text of its predicate for the node endpoint. -/
theorem Server.IsPlain.delivers_nodes {server : Server} (hserver : server.IsPlain)
    (network : Network) (query : Option Predicate) :
    server.Delivers network Endpoint.nodes.path (query.map (Predicate.render · .nodes))
      (Client.nodes (server.transport network) query).requests := by
  rw [Client.requests_nodes]
  exact hserver.delivers_get network .nodes _

/-- A call for facts delivers the text of its predicate for the fact endpoint. -/
theorem Server.IsPlain.delivers_facts {server : Server} (hserver : server.IsPlain)
    (network : Network) (names : List String) (query : Option Predicate) :
    server.Delivers network Endpoint.facts.path
      ((factsQuery names query).map (Predicate.render · .facts))
      (Client.facts (server.transport network) names query).requests := by
  rw [Client.requests_facts]
  exact hserver.delivers_get network .facts _

/-- What a plain server gets to see of a query. Unless the connection is refused or the URL is too
long, a call for nodes makes a request for a printable target that carries the text of the predicate
for the node endpoint, and others behind it only where the replies lead to them; the same is true of
a call for facts and its predicate. Two calls for nodes, or two calls for facts, whose first requests
are for the same target have the same predicate. -/
theorem Server.IsPlain.delivers_queries {server : Server} (hserver : server.IsPlain)
    (network : Network) :
    (∀ query : Option Predicate,
      server.Delivers network "/nodes" (query.map (Predicate.render · .nodes))
        (Client.nodes (server.transport network) query).requests) ∧
    (∀ (names : List String) (query : Option Predicate),
      server.Delivers network "/facts" ((factsQuery names query).map (Predicate.render · .facts))
        (Client.facts (server.transport network) names query).requests) ∧
    ∀ (other : Server) (otherNetwork : Network), other.IsPlain →
      (∀ p q : Option Predicate,
        ∀ request ∈ (Client.nodes (server.transport network) p).requests.head?,
          ∀ otherRequest ∈ (Client.nodes (other.transport otherNetwork) q).requests.head?,
            request.target = otherRequest.target → p = q) ∧
      ∀ (names otherNames : List String) (p q : Option Predicate),
        ∀ request ∈ (Client.facts (server.transport network) names p).requests.head?,
          ∀ otherRequest ∈
              (Client.facts (other.transport otherNetwork) otherNames q).requests.head?,
            request.target = otherRequest.target → factsQuery names p = factsQuery otherNames q := by
  refine ⟨hserver.delivers_nodes network, hserver.delivers_facts network, ?_⟩
  intro other otherNetwork hother
  constructor
  · intro p q request hrequest otherRequest hotherRequest htarget
    exact map_render_injective (Server.Delivers.unique hserver hother
      (hserver.delivers_nodes network p) (hother.delivers_nodes otherNetwork q) hrequest
      hotherRequest htarget)
  · intro names otherNames p q request hrequest otherRequest hotherRequest htarget
    exact map_render_injective (Server.Delivers.unique hserver hother
      (hserver.delivers_facts network names p) (hother.delivers_facts otherNetwork otherNames q)
      hrequest hotherRequest htarget)

/-- The server on the local machine is plain. -/
theorem localServer_isPlain : (localServer "/pdb/query/v4").IsPlain where
  exists_base := ⟨"http://[::1]:47123/", rfl⟩
  scheme_eq := rfl
  exists_version := by
    refine ⟨["pdb", "query", "v4"], ?_, rfl⟩
    intro segment hsegment
    simp only [List.mem_cons, List.not_mem_nil, or_false] at hsegment
    rcases hsegment with rfl | rfl | rfl <;> exact ⟨by decide, List.all_eq_true.mp (by decide)⟩

/-- On a network where everyone accepts connections and replies with an empty list, a name with
spaces, marks and other letters goes to the local server in one request, which the name with a plus
sign in place of the space does not share. -/
theorem delivers_queries_localServer :
    let network : Network := fun _ _ => some fun _ => { body := "[]".toUTF8.toList }
    let server : Server := localServer "/pdb/query/v4"
    let spaced := Predicate.node { identifier := "a b&c%é" }
    let joined := Predicate.node { identifier := "a+b&c%é" }
    let requests := (Client.nodes (server.transport network) (some spaced)).requests
    server.IsPlain ∧
      requests.map Request.target =
        ["/pdb/query/v4/nodes?query=%5B%22%3D%22%2C%22name%22%2C%22a+b%26c%25%C3%A9%22%5D"] ∧
      server.Delivers network "/nodes" (some (spaced.render .nodes)) requests ∧
      server.Delivers network "/facts"
        (some ((Predicate.group .or [Predicate.factPresence "a b"]).render .facts))
        (Client.facts (server.transport network) ["a b"] none).requests ∧
      ∀ request ∈ requests.head?,
        ∀ other ∈ (Client.nodes (server.transport network) (some joined)).requests.head?,
          request.target ≠ other.target := by
  intro network server spaced joined requests
  obtain ⟨hnodes, hfacts, happart⟩ := localServer_isPlain.delivers_queries network
  refine ⟨localServer_isPlain, by decide +kernel, hnodes (some spaced), hfacts ["a b"] none, ?_⟩
  intro request hrequest other hother htarget
  have hsame : some spaced = some joined :=
    (happart server network localServer_isPlain).1 _ _ request hrequest other hother htarget
  exact absurd hsame (by decide)

/-- A server that accepts connections does not get to see every query: the URL with a name of 65535
letters is too long. It may get to see more than one request for a query, if it names another URL in
its reply, and then different queries lead to requests for the same target. -/
theorem not_forall_length_requests_nodes_eq_one :
    (¬ ∀ (server : Server) (network : Network) (query : Option Predicate), server.IsPlain →
      (∀ earlier address, network.Accepts earlier address) → network.NeverRedirects →
        (Client.nodes (server.transport network) query).requests.length = 1) ∧
    (¬ ∀ (server : Server) (network : Network) (query : Option Predicate), server.IsPlain →
      (∀ earlier address, network.Accepts earlier address) →
        (Client.nodes (server.transport network) query).requests.length ≤ 1) ∧
    ¬ ∀ (server : Server) (network : Network) (p q : Option Predicate), server.IsPlain →
      ∀ request ∈ (Client.nodes (server.transport network) p).requests,
        ∀ other ∈ (Client.nodes (server.transport network) q).requests,
          request.target = other.target → p = q := by
  refine ⟨fun h => ?_, fun h => ?_, fun h => ?_⟩
  · have hname : maxUrlLength < (String.ofList (List.replicate 65535 'a')).length := by
      rw [String.length_ofList, List.length_replicate]
      decide
    have hnever : Network.NeverRedirects fun _ _ => some fun _ => {} := by
      intro earlier request reply hreply hredirect
      obtain rfl : ({} : Reply) = reply := Option.some.inj hreply
      exact absurd hredirect (by decide)
    have hsent := h (localServer "/pdb/query/v4") (fun _ _ => some fun _ => {})
      (some (Predicate.node { identifier := String.ofList (List.replicate 65535 'a') }))
      localServer_isPlain (fun _ _ => rfl) hnever
    rw [requests_nodes_of_long_name (localServer "/pdb/query/v4") _ hname] at hsent
    exact absurd hsent (by decide)
  · have hlength := h (localServer "/pdb/query/v4") redirecting none localServer_isPlain
      (fun _ _ => rfl)
    exact absurd hlength (by decide +kernel)
  · let root : Request := ⟨⟨false, .ipv6 [0, 0, 0, 0, 0, 0, 0, 1], 47123⟩, "/", none⟩
    have hsame := h (localServer "/pdb/query/v4") redirecting none
      (some (Predicate.node { identifier := "a" })) localServer_isPlain root (by decide +kernel) root
      (by decide +kernel) rfl
    exact absurd hsame (by decide)

end InventoryQuery.Http
