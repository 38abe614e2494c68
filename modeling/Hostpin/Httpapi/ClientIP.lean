import Hostpin.Foundation.NetIP
import Hostpin.Foundation.Text

/-!
# The address of a client

Behind trusted proxies the address of a client is the right-most one in `X-Forwarded-For` that is
not a proxy.  Each proxy appends the address that it was asked from, to the last line of the header
or as a line of its own (`appendAll`).

Only the first line of the header is read.  What the proxies append to it is `appendedFirst`; the
client decides about the rest of that line, and about `X-Real-IP`, which is read when the line has
no address that is left.  So the proxies keep the client from choosing its address exactly when
their right-most address in the first line is their right-most address at all (`clientIP_forced`).
-/

namespace Hostpin

open NetIP Text

/-! ## Reading the header -/

/-- What `clientIP` reads of a request: the address of the peer, and the lines of two headers. -/
structure ForwardedRequest where
  remoteAddr : String
  forwardedFor : List String := []
  realIP : List String := []

/-- The first line of a header. -/
def headerGet (lines : List String) : String := lines.headD ""

def containsPrefix (prefixes : List Prefix) (address : Addr) : Bool :=
  prefixes.any fun p => p.contains address

/-- The address in a token, unless it is one of a trusted proxy. -/
def untrusted (trustedProxies : List Prefix) (token : List Char) : Option Addr :=
  (parseAddr (trimSpace (String.ofList token))).filter fun candidate =>
    !containsPrefix trustedProxies candidate

/-- The right-most address of some tokens that is not one of a trusted proxy. -/
def lastUntrusted (trustedProxies : List Prefix) (tokens : List (List Char)) : Option Addr :=
  tokens.reverse.findSome? (untrusted trustedProxies)

/-- The host of the peer. -/
def peerHost (remoteAddr : String) : String := (splitHostPort remoteAddr).getD remoteAddr

/-- The peer is a trusted proxy. -/
def PeerTrusted (trustedProxies : List Prefix) (remoteAddr : String) : Prop :=
  ∃ peer, parseAddr (trim (peerHost remoteAddr) "[]") = some peer ∧
    containsPrefix trustedProxies peer

def clientIP (trustedProxies : List Prefix) (r : ForwardedRequest) : String :=
  let host := peerHost r.remoteAddr
  match parseAddr (trim host "[]") with
  | none => host
  | some peer =>
    if !containsPrefix trustedProxies peer then host
    else
      match lastUntrusted trustedProxies ((headerGet r.forwardedFor).toList.splitOn ',') with
      | some candidate => candidate.toString
      | none =>
        let forwarded := trimSpace (headerGet r.realIP)
        if forwarded = "" then host
        else
          match parseAddr forwarded with
          | some candidate => candidate.toString
          | none => host

/-! ## What proxies append -/

/-- An address that a proxy appends. -/
structure AppendedToken where
  text : String
  single : ',' ∉ text.toList
  parses : (parseAddr (trimSpace text)).isSome

/-- A proxy joins the address to the last line of the header, or adds a line. -/
inductive Appending where
  | join (token : AppendedToken)
  | line (token : AppendedToken)

/-- The address that is appended. -/
def Appending.token : Appending → AppendedToken
  | .join token | .line token => token

/-- The lines of the header after a proxy has appended an address. -/
def Appending.append (lines : List String) : Appending → List String
  | .line token => lines ++ [token.text]
  | .join token =>
    match lines.getLast? with
    | none => [token.text]
    | some last => lines.dropLast ++ [last ++ "," ++ token.text]

/-- The lines of the header after all proxies. -/
def appendAll (lines : List String) (appendings : List Appending) : List String :=
  appendings.foldl Appending.append lines

/-- What is appended to the first line of a header that has a number of lines. -/
def appendedFirst : ℕ → List Appending → List (List Char)
  | _, [] => []
  | 0, a :: appendings => a.token.text.toList :: appendedFirst 1 appendings
  | 1, .join token :: appendings => token.text.toList :: appendedFirst 1 appendings
  | _, _ => []

/-- All that is appended. -/
def appendedTokens (appendings : List Appending) : List (List Char) :=
  appendings.map fun a => a.token.text.toList

variable {trustedProxies : List Prefix} {appendings : List Appending} {h : Addr}

/-! ## The first line -/

lemma splitOn_token (token : AppendedToken) :
    token.text.toList.splitOn ',' = [token.text.toList] := by
  refine List.splitOnP_eq_singleton fun c mem => beq_eq_false_iff_ne.mpr ?_
  rintro rfl
  exact token.single mem

lemma splitOn_join (line : String) (token : AppendedToken) :
    (line ++ "," ++ token.text).toList.splitOn ',' =
      line.toList.splitOn ',' ++ [token.text.toList] := by
  rw [← splitOn_token token, String.toList_append, String.toList_append, List.append_assoc]
  exact List.splitOnP_append_cons _ _ (beq_self_eq_true ',')

/-- Further lines do not change the first one. -/
lemma headerGet_appendAll_cons_cons (first second : String) (lines : List String)
    (appendings : List Appending) :
    headerGet (appendAll (first :: second :: lines) appendings) = first := by
  induction appendings generalizing second lines with
  | nil => rfl
  | cons a appendings ih =>
    have step : ∃ second' lines',
        a.append (first :: second :: lines) = first :: second' :: lines' := by
      cases a with
      | line token => exact ⟨second, lines ++ [token.text], rfl⟩
      | join token =>
        cases last : (first :: second :: lines).getLast? with
        | none => simp at last
        | some last' =>
          obtain ⟨second', lines', rest⟩ := List.exists_cons_of_ne_nil
            (l := (second :: lines).dropLast ++ [last' ++ "," ++ token.text]) (by simp)
          refine ⟨second', lines', ?_⟩
          simp only [Appending.append, last]
          rw [← rest]
          rfl
    obtain ⟨second', lines', eq⟩ := step
    rw [appendAll, List.foldl_cons, eq]
    exact ih second' lines'

/-- The tokens of the first line: those of the client, then what the proxies have appended to it. -/
lemma tokens_cons (first : String) (lines : List String) (appendings : List Appending) :
    (headerGet (appendAll (first :: lines) appendings)).toList.splitOn ',' =
      first.toList.splitOn ',' ++ appendedFirst (lines.length + 1) appendings := by
  cases lines with
  | cons second lines =>
    rw [headerGet_appendAll_cons_cons]
    cases appendings <;> simp [appendedFirst]
  | nil =>
    induction appendings generalizing first with
    | nil => simp [appendAll, headerGet, appendedFirst]
    | cons a appendings ih =>
      cases a with
      | join token =>
        have joined := ih (first ++ "," ++ token.text)
        rw [splitOn_join, List.append_assoc] at joined
        exact joined
      | line token =>
        have := headerGet_appendAll_cons_cons first token.text [] appendings
        simpa [appendAll, Appending.append, appendedFirst] using congrArg
          (fun s : String => s.toList.splitOn ',') this

lemma tokens_nil (a : Appending) (appendings : List Appending) :
    (headerGet (appendAll [] (a :: appendings))).toList.splitOn ',' =
      appendedFirst 0 (a :: appendings) := by
  have first : appendAll [] (a :: appendings) = appendAll [a.token.text] appendings := by
    cases a <;> rfl
  rw [first, tokens_cons, splitOn_token]
  rfl

/-! ## The address -/

/-- The right-most address of some tokens is taken before those to their left. -/
lemma lastUntrusted_append (trustedProxies : List Prefix) (left right : List (List Char)) :
    lastUntrusted trustedProxies (left ++ right) =
      (lastUntrusted trustedProxies right).or (lastUntrusted trustedProxies left) := by
  rw [lastUntrusted, List.reverse_append, List.findSome?_append]
  rfl

/-- Blank tokens are no addresses. -/
lemma lastUntrusted_blank : lastUntrusted trustedProxies ("".toList.splitOn ',') = none := by
  have blank : parseAddr (trimSpace (String.ofList [])) = none := by decide
  simp [lastUntrusted, untrusted, blank, List.splitOn_nil]

/-- Behind a trusted peer the first line decides. -/
lemma clientIP_of_peer {remoteAddr : String} (peer : PeerTrusted trustedProxies remoteAddr)
    (forwardedFor realIP : List String) :
    clientIP trustedProxies { remoteAddr, forwardedFor, realIP } =
      match lastUntrusted trustedProxies ((headerGet forwardedFor).toList.splitOn ',') with
      | some candidate => candidate.toString
      | none =>
        if trimSpace (headerGet realIP) = "" then peerHost remoteAddr
        else ((parseAddr (trimSpace (headerGet realIP))).map Addr.toString).getD
          (peerHost remoteAddr) := by
  obtain ⟨address, parses, trusted⟩ := peer
  unfold clientIP
  simp only [parses, trusted, Bool.not_true, Bool.false_eq_true, if_false]
  split
  · rfl
  · split
    · rfl
    · split <;> simp [*]

/-- Without an address in the first line, the answer is the address in `X-Real-IP`. -/
lemma clientIP_of_realIP {remoteAddr : String} (peer : PeerTrusted trustedProxies remoteAddr)
    {forwardedFor : List String} (blank : lastUntrusted trustedProxies
      ((headerGet forwardedFor).toList.splitOn ',') = none) (text : String)
    (hne : trimSpace text ≠ "")
    (canonical : (parseAddr (trimSpace text)).map Addr.toString = some text) :
    clientIP trustedProxies { remoteAddr, forwardedFor, realIP := [text] } = text := by
  rw [clientIP_of_peer peer]
  simp only [blank]
  rw [show headerGet [text] = text from rfl, if_neg hne, canonical, Option.getD_some]

/-- Without an address in the first line, the client chooses the answer. -/
lemma exists_realIP_ne {remoteAddr : String} (peer : PeerTrusted trustedProxies remoteAddr)
    {forwardedFor : List String} (blank : lastUntrusted trustedProxies
      ((headerGet forwardedFor).toList.splitOn ',') = none) (text : String) :
    ∃ realIP, clientIP trustedProxies { remoteAddr, forwardedFor, realIP } ≠ text := by
  have one := clientIP_of_realIP peer blank "192.0.2.1" (by decide) (by decide +kernel)
  have two := clientIP_of_realIP peer blank "192.0.2.2" (by decide) (by decide +kernel)
  by_cases same : text = "192.0.2.1"
  · exact ⟨["192.0.2.2"], by rw [two, same]; decide⟩
  · exact ⟨["192.0.2.1"], by rw [one]; exact Ne.symm same⟩

/-- The tokens of the first line of a request. -/
lemma tokens_appendAll (trustedProxies : List Prefix) (lines : List String)
    (hne : appendings ≠ []) :
    ∃ left, (headerGet (appendAll lines appendings)).toList.splitOn ',' =
        left ++ appendedFirst lines.length appendings ∧
      ((∀ line ∈ lines, line = "") → lastUntrusted trustedProxies left = none) := by
  cases lines with
  | nil =>
    obtain ⟨a, rest, rfl⟩ := List.exists_cons_of_ne_nil hne
    exact ⟨[], tokens_nil a rest, fun _ => rfl⟩
  | cons first lines =>
    refine ⟨first.toList.splitOn ',', tokens_cons first lines appendings, fun blank => ?_⟩
    rw [blank first List.mem_cons_self]
    exact lastUntrusted_blank

/-- Let the peer be a trusted proxy, and the right-most address that the proxies append, other than
those of proxies, be `h`.  For a number of header lines of the client, `clientIP` gives `h` whatever
the client sends exactly when that address is the right-most one that is appended to the first line.
-/
theorem clientIP_forced (trustedProxies : List Prefix) (remoteAddr : String)
    (appendings : List Appending) (h : Addr) (n : ℕ)
    (peer : PeerTrusted trustedProxies remoteAddr)
    (rightmost : lastUntrusted trustedProxies (appendedTokens appendings) = some h) :
    (∀ lines realIP, lines.length = n →
      clientIP trustedProxies
        { remoteAddr, forwardedFor := appendAll lines appendings, realIP } = h.toString) ↔
    (lastUntrusted trustedProxies (appendedFirst n appendings)).map Addr.toString =
      some h.toString := by
  have hne : appendings ≠ [] := by
    rintro rfl
    cases rightmost
  constructor
  · intro forced
    obtain ⟨left, tokens, blank⟩ := tokens_appendAll trustedProxies (List.replicate n "") hne
    rw [List.length_replicate] at tokens
    have scanned := lastUntrusted_append trustedProxies left
      (appendedFirst n appendings)
    rw [blank fun line mem => List.eq_of_mem_replicate mem, Option.or_none, ← tokens] at scanned
    cases found : lastUntrusted trustedProxies (appendedFirst n appendings) with
    | none =>
      rw [found] at scanned
      obtain ⟨realIP, hne⟩ := exists_realIP_ne peer scanned h.toString
      exact absurd (forced _ realIP List.length_replicate) hne
    | some candidate =>
      rw [found] at scanned
      have answer := forced (List.replicate n "") [] List.length_replicate
      rw [clientIP_of_peer peer] at answer
      simp only [scanned] at answer
      rw [Option.map_some, answer]
  · rintro forced lines realIP rfl
    obtain ⟨left, tokens, -⟩ := tokens_appendAll trustedProxies lines hne
    obtain ⟨candidate, found, same⟩ := Option.map_eq_some_iff.mp forced
    have scanned : lastUntrusted trustedProxies
        ((headerGet (appendAll lines appendings)).toList.splitOn ',') = some candidate := by
      rw [tokens, lastUntrusted_append, found, Option.some_or]
    rw [clientIP_of_peer peer]
    simp only [scanned]
    exact same

/-- A proxy of the network 10.0.0.0/8. -/
def localProxies : List Prefix := [⟨.v4 (BitVec.ofNat 32 0x0a000000), 8, by decide⟩]

/-- The address that a proxy appends. -/
def appendedAddress : AppendedToken := ⟨" 198.51.100.7", by decide, by decide⟩

lemma peerTrusted_local : PeerTrusted localProxies "10.0.0.1:443" :=
  ⟨.v4 (BitVec.ofNat 32 0x0a000001), by decide +kernel, by decide +kernel⟩

/-- The client chooses its address when the proxy adds a header line of its own. -/
theorem clientIP_spoofed :
    ¬ ∀ (trustedProxies : List Prefix) (remoteAddr : String) (appendings : List Appending)
      (h : Addr), PeerTrusted trustedProxies remoteAddr →
      lastUntrusted trustedProxies (appendedTokens appendings) = some h →
      ∀ lines realIP, clientIP trustedProxies
        { remoteAddr, forwardedFor := appendAll lines appendings, realIP } = h.toString := by
  intro forced
  have spoofed := forced localProxies "10.0.0.1:443" [.line appendedAddress]
    (.v4 (BitVec.ofNat 32 0xc6336407)) peerTrusted_local (by decide +kernel) ["203.0.113.9"] []
  revert spoofed
  decide +kernel

theorem clientIP_forced_joined :
    clientIP localProxies
      { remoteAddr := "10.0.0.1:443"
        forwardedFor := appendAll ["203.0.113.9"] [.join appendedAddress]
        realIP := [] } = (Addr.v4 (BitVec.ofNat 32 0xc6336407)).toString :=
  (clientIP_forced localProxies "10.0.0.1:443" [.join appendedAddress]
    (.v4 (BitVec.ofNat 32 0xc6336407)) 1 peerTrusted_local (by decide +kernel)).mpr
    (by decide +kernel) ["203.0.113.9"] [] rfl

end Hostpin
