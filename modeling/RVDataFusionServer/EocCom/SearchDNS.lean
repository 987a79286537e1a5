import RVDataFusionServer.EocCom.DNSServer
import RVDataFusionServer.EocCom.Uri
import RVDataFusionServer.Library.Execution
import RVDataFusionServer.Library.SortedTable

/-!
# The table of resolved hosts

`searchDNS` (`DNSServer.cpp`) keeps the addresses of hosts in `dns_table`, and every half hour
`dns_server_task` resolves all of them again. That loop has one `ipaddr` for all hosts, which a
failed lookup leaves as it was: `table_latest_iff` says in which runs a host nevertheless has the
address that was last found for it, and `download_cached` what a download then gets for its URL.
-/

namespace RVDataFusionServer

open Library Library.Execution Uri

namespace Dns

/-- What `gethostbyname_r` says: an error, no host, or the text of its first address. -/
inductive HostByName where
  | error
  | null
  | address (text : List UInt8)

/-- What the resolvers say of a host at one time. `server` is `dns_resolve_114` with the address of
a server, when it returns 0. -/
structure Resolver where
  hostByName : HostByName
  server : String → Option (List UInt8)

/-- `dnsserver`. -/
def dnsserver : List String :=
  ["119.29.29.29", "182.254.116.116", "114.114.114.114", "223.5.5.5", "223.6.6.6", "180.76.76.76",
    "8.8.8.8", "8.8.4.4"]

/-- `size`, with 32 bytes for the text of a server. -/
def serverCount : Nat := 32 * dnsserver.length / 64

/-- `url_get`: what it assigns to `ipaddr` when it returns 0. -/
def urlGet (resolver : Resolver) : Option (List UInt8) :=
  match resolver.hostByName with
  | .error => (dnsserver.take serverCount).findSome? resolver.server
  | .null => none
  | .address text => some text

/-- A call of `searchDNS`, with the resolvers at that time. -/
structure Call where
  url : List UInt8
  force : Int
  resolver : List UInt8 → Resolver

/-- `dns_table`. -/
abbrev DnsTable := SortedTable (List UInt8) (List UInt8)

/-- A host and an address that was found for it. -/
abbrev Finding := List UInt8 × List UInt8

/-- What `searchDNS` returns and assigns, and the addresses that were found in the call. -/
structure Reply where
  ret : Int
  urlIp : List UInt8 := []
  host : List UInt8 := []
  port : List UInt8 := []
  found : List Finding := []

/-- The address of a host that is not empty. -/
def answer (resolver : List UInt8 → Resolver) (host : List UInt8) : Option (List UInt8) :=
  (urlGet (resolver host)).filter fun ipaddr => !ipaddr.isEmpty

/-- The loop of the update over `dns_table`, with `ipaddr` from the hosts before. -/
def updateEntries (resolver : List UInt8 → Resolver) :
    List UInt8 → List Finding → List Finding
  | _, [] => []
  | ipaddr, (host, addr) :: rest =>
      let ipaddr := (urlGet (resolver host)).getD ipaddr
      (host, if ipaddr.length > 0 then ipaddr else addr) :: updateEntries resolver ipaddr rest

/-- The update writes values only. -/
theorem keys_updateEntries (resolver : List UInt8 → Resolver) (ipaddr : List UInt8)
    (entries : List Finding) :
    (updateEntries resolver ipaddr entries).map Prod.fst = entries.map Prod.fst := by
  induction entries generalizing ipaddr with
  | nil => rfl
  | cons entry rest ih => exact congrArg (entry.1 :: ·) (ih _)

/-- `searchDNS` with `force` 2. -/
def update (resolver : List UInt8 → Resolver) (table : DnsTable) : DnsTable :=
  table.mapEntries (updateEntries resolver []) (keys_updateEntries resolver [])

/-- The text `"80"`. -/
def defaultPort : List UInt8 := [0x38, 0x30]

/-- The text `"http://"`. -/
def httpScheme : List UInt8 := [0x68, 0x74, 0x74, 0x70, 0x3A, 0x2F, 0x2F]

/-- `text.replace(text.find(sub), sub.length(), str)`, where `sub` occurs. -/
def replaceFirst (text sub str : List UInt8) : List UInt8 :=
  match text.dropInfix? sub with
  | some (front, back) => front ++ str ++ back
  | none => text

/-- The rewritten URL. -/
def rewritten (url host ipaddr : List UInt8) : List UInt8 :=
  replaceFirst (replaceFirst url host ipaddr) httpScheme []

/-- The lookup of a host that is not taken from the table: the table, the address and what was
found. -/
def resolve (resolver : List UInt8 → Resolver) (table : DnsTable) (hoststr : List UInt8) :
    Option (DnsTable × List UInt8 × List Finding) :=
  match urlGet (resolver hoststr) with
  | none => none
  | some ipaddr =>
      if ipaddr.length > 0 then
        some (table.insert hoststr ipaddr, ipaddr, [(hoststr, ipaddr)])
      else some (table, ipaddr, [])

/-- The part of `searchDNS` under the lock: the cases 0 and `default` are the same. -/
def query (call : Call) (table : DnsTable) (hoststr : List UInt8) :
    Option (DnsTable × List UInt8 × List Finding) :=
  if call.force = 1 then resolve call.resolver table hoststr
  else
    match table.find hoststr with
    | none => resolve call.resolver table hoststr
    | some ipaddr => some (table, ipaddr, [])

/-- `searchDNS`. -/
def searchDNS (table : DnsTable) (call : Call) : DnsTable × Reply :=
  if call.force = 2 then
    (update call.resolver table,
      { ret := 0
        found := table.entries.filterMap fun entry =>
          (answer call.resolver entry.1).map fun ipaddr => (entry.1, ipaddr) })
  else if call.url.length = 0 then (table, { ret := -1 })
  else
    let uri := astUriParse call.url
    match uri.host with
    | none => (table, { ret := -1, urlIp := call.url })
    | some host =>
        let port := uri.port.getD defaultPort
        if isIP host = 1 then (table, { ret := -1, urlIp := call.url, host := host, port := port })
        else
          match query call table host with
          | none => (table, { ret := -1, urlIp := call.url, host := host, port := port })
          | some (table, ipaddr, found) =>
              (table, { ret := 0, urlIp := rewritten call.url host ipaddr, host := host,
                        port := port, found := found })

/-! ## What was found -/

/-- The address that was last found for a host. -/
def latest (found : List Finding) (host : List UInt8) : Option (List UInt8) :=
  valueOf found.reverse host

/-- `searchDNS`, with all that was found so far beside the table. -/
def logged (s : DnsTable × List Finding) (call : Call) : (DnsTable × List Finding) × Reply :=
  (((searchDNS s.1 call).1, s.2 ++ (searchDNS s.1 call).2.found), (searchDNS s.1 call).2)

/-- The table has of every host the address that was last found for it. -/
def Current (s : DnsTable × List Finding) : Prop := ∀ host, s.1.find host = latest s.2 host

/-- `ipaddr` behind the loop of the update over these entries. -/
def carried (resolver : List UInt8 → Resolver) (ipaddr : List UInt8) (entries : List Finding) :
    List UInt8 :=
  entries.foldl (fun ipaddr entry => (urlGet (resolver entry.1)).getD ipaddr) ipaddr

/-- Every host of an update that is not found has already the address that is carried to it, if
there is one. -/
def Unspoiled (resolver : List UInt8 → Resolver) (ipaddr : List UInt8) (entries : List Finding) :
    Prop :=
  ∀ front host addr back, entries = front ++ (host, addr) :: back →
    urlGet (resolver host) = none →
      carried resolver ipaddr front = [] ∨ carried resolver ipaddr front = addr

/-- What an update should make of an entry. -/
def refreshed (resolver : List UInt8 → Resolver) (entry : Finding) : Finding :=
  (entry.1, (answer resolver entry.1).getD entry.2)

/-- The first entry of an update is not spoiled by what is carried to it, and the others not by
what is carried on. -/
theorem unspoiled_cons_iff {resolver : List UInt8 → Resolver} {ipaddr host addr : List UInt8}
    {rest : List Finding} :
    Unspoiled resolver ipaddr ((host, addr) :: rest) ↔
      (urlGet (resolver host) = none → ipaddr = [] ∨ ipaddr = addr) ∧
        Unspoiled resolver ((urlGet (resolver host)).getD ipaddr) rest := by
  constructor
  · intro h
    refine ⟨h [] host addr rest rfl, fun front host' addr' back heq hnone => ?_⟩
    exact h ((host, addr) :: front) host' addr' back (congrArg _ heq) hnone
  · rintro ⟨hfirst, hrest⟩ front host' addr' back heq hnone
    cases front with
    | nil =>
        obtain ⟨rfl, rfl⟩ := Prod.mk.inj (List.cons.inj heq).1
        exact hfirst hnone
    | cons entry front =>
        obtain ⟨rfl, rfl⟩ := List.cons.inj heq
        exact hrest front host' addr' back rfl hnone

/-- One entry of the update. -/
theorem updated_eq_iff (resolver : List UInt8 → Resolver) (ipaddr host addr : List UInt8) :
    ((host, if ((urlGet (resolver host)).getD ipaddr).length > 0 then
        (urlGet (resolver host)).getD ipaddr else addr) : Finding) =
        refreshed resolver (host, addr) ↔
      (urlGet (resolver host) = none → ipaddr = [] ∨ ipaddr = addr) := by
  unfold refreshed answer
  cases urlGet (resolver host) with
  | none =>
      cases ipaddr with
      | nil => simp
      | cons c ipaddr => simp
  | some found =>
      cases found with
      | nil => simp [Option.filter]
      | cons c found => simp [Option.filter]

/-- The update makes of every entry what it should exactly if none is spoiled. -/
theorem updateEntries_eq_iff (resolver : List UInt8 → Resolver) (ipaddr : List UInt8)
    (entries : List Finding) :
    updateEntries resolver ipaddr entries = entries.map (refreshed resolver) ↔
      Unspoiled resolver ipaddr entries := by
  induction entries generalizing ipaddr with
  | nil => exact ⟨fun _ front _ _ _ heq => by simp at heq, fun _ => rfl⟩
  | cons entry rest ih =>
      obtain ⟨host, addr⟩ := entry
      rw [unspoiled_cons_iff, ← ih, ← updated_eq_iff]
      exact List.cons_eq_cons

/-- The table as an update should leave it. -/
def ideal (resolver : List UInt8 → Resolver) (table : DnsTable) : DnsTable :=
  table.mapEntries (List.map (refreshed resolver)) fun entries => by
    rw [List.map_map]
    rfl

theorem update_eq_ideal_iff (resolver : List UInt8 → Resolver) (table : DnsTable) :
    update resolver table = ideal resolver table ↔ Unspoiled resolver [] table.entries := by
  rw [← updateEntries_eq_iff]
  refine ⟨congrArg SortedTable.entries, fun h => ?_⟩
  unfold update ideal SortedTable.mapEntries
  congr

/-- What is found in a table that was updated as it should be. -/
theorem find_ideal (resolver : List UInt8 → Resolver) (table : DnsTable) (host : List UInt8) :
    (ideal resolver table).find host =
      (table.find host).map fun addr => (answer resolver host).getD addr := by
  exact valueOf_map (fun host addr => (answer resolver host).getD addr) host

/-! ## What was found -/

/-- The last finding of a host is among the later ones, or else among the earlier ones. -/
theorem latest_append (found more : List Finding) (host : List UInt8) :
    latest (found ++ more) host = (latest more host).or (latest found host) := by
  rw [latest, List.reverse_append, valueOf_append]
  rfl

/-- What an update has found for a host. -/
theorem latest_update (resolver : List UInt8 → Resolver) (table : DnsTable) (host : List UInt8) :
    latest (table.entries.filterMap fun entry =>
        (answer resolver entry.1).map fun ipaddr => (entry.1, ipaddr)) host =
      if (table.find host).isSome then answer resolver host else none := by
  have hkeys : (table.entries.filterMap fun entry =>
      (answer resolver entry.1).map fun ipaddr => (entry.1, ipaddr)) =
      (table.entries.map Prod.fst).filterMap fun host =>
        (answer resolver host).map fun ipaddr => (host, ipaddr) := by
    rw [List.filterMap_map]
    rfl
  rw [latest, hkeys, ← List.filterMap_reverse, valueOf_filterMap]
  simp only [List.mem_reverse, mem_keys_iff]
  rfl

/-- An update keeps the table current exactly if no host is spoiled. -/
theorem Current.update_iff {table : DnsTable} {found : List Finding} (h : Current (table, found))
    (resolver : List UInt8 → Resolver) :
    Current (update resolver table, found ++ table.entries.filterMap fun entry =>
        (answer resolver entry.1).map fun ipaddr => (entry.1, ipaddr)) ↔
      Unspoiled resolver [] table.entries := by
  have hideal : ∀ host, (ideal resolver table).find host =
      latest (found ++ table.entries.filterMap fun entry =>
        (answer resolver entry.1).map fun ipaddr => (entry.1, ipaddr)) host := fun host => by
    have hhost : table.find host = latest found host := h host
    rw [find_ideal, latest_append, latest_update, hhost]
    cases latest found host with
    | none => rfl
    | some addr => cases answer resolver host <;> rfl
  rw [← update_eq_ideal_iff]
  constructor
  · intro hcurrent
    exact SortedTable.ext_find fun host => (hcurrent host).trans (hideal host).symm
  · intro heq host
    exact (congrArg (fun table => SortedTable.find table host) heq).trans (hideal host)

/-- What a lookup may have done: nothing, or stored the address that it found. -/
inductive Looked (table : DnsTable) (hoststr : List UInt8) :
    DnsTable × List UInt8 × List Finding → Prop
  | nothing (ipaddr : List UInt8) : Looked table hoststr (table, ipaddr, [])
  | stored (ipaddr : List UInt8) :
      Looked table hoststr (table.insert hoststr ipaddr, ipaddr, [(hoststr, ipaddr)])

/-- A query has looked something up, or it fails. -/
theorem query_cases {call : Call} {table : DnsTable} {hoststr : List UInt8}
    {result : DnsTable × List UInt8 × List Finding} (h : query call table hoststr = some result) :
    Looked table hoststr result := by
  have hresolve : resolve call.resolver table hoststr = some result →
      Looked table hoststr result := fun hsome => by
    unfold resolve at hsome
    split at hsome
    · exact nomatch hsome
    · next ipaddr _ =>
        split_ifs at hsome
        · exact Option.some.inj hsome ▸ .stored ipaddr
        · exact Option.some.inj hsome ▸ .nothing ipaddr
  unfold query at h
  split_ifs at h
  · exact hresolve h
  · split at h
    · exact hresolve h
    · next ipaddr _ => exact Option.some.inj h ▸ .nothing ipaddr

/-- What a call may have done that is not an update. -/
theorem searchDNS_cases {call : Call} (table : DnsTable) (hforce : call.force ≠ 2) :
    (searchDNS table call).1 = table ∧ (searchDNS table call).2.found = [] ∨
      ∃ host ipaddr, (searchDNS table call).1 = table.insert host ipaddr ∧
        (searchDNS table call).2.found = [(host, ipaddr)] := by
  unfold searchDNS
  rw [if_neg hforce]
  split_ifs with hempty
  · exact .inl ⟨rfl, rfl⟩
  · dsimp only
    split
    · exact .inl ⟨rfl, rfl⟩
    · next host _ =>
        split_ifs with hip
        · exact .inl ⟨rfl, rfl⟩
        · split
          · exact .inl ⟨rfl, rfl⟩
          · next hquery =>
              cases query_cases hquery with
              | nothing => exact .inl ⟨rfl, rfl⟩
              | stored => exact .inr ⟨host, _, rfl, rfl⟩

/-- A call keeps the table current, unless it is an update that spoils a host. -/
theorem Current.logged_iff {s : DnsTable × List Finding} (h : Current s) (call : Call) :
    Current (logged s call).1 ↔
      (call.force = 2 → Unspoiled call.resolver [] s.1.entries) := by
  by_cases hforce : call.force = 2
  · rw [← h.update_iff, logged, searchDNS, if_pos hforce]
    exact ⟨fun hcurrent _ => hcurrent, fun hcurrent => hcurrent hforce⟩
  · refine ⟨fun _ h2 => absurd h2 hforce, fun _ => ?_⟩
    rcases searchDNS_cases s.1 hforce with ⟨htable, hfound⟩ | ⟨host, ipaddr, htable, hfound⟩
    · rw [logged, htable, hfound, List.append_nil]
      exact h
    · rw [logged, htable, hfound]
      intro other
      rw [SortedTable.find_insert, latest_append, latest, List.reverse_singleton, valueOf_cons,
        h other]
      by_cases hother : other = host
      · rw [if_pos hother, if_pos hother]
        rfl
      · rw [if_neg hother, if_neg hother]
        rfl

/-- In every state of a run the table has of each host the address that was last found for it, if
and only if in each update of the run a host that is not found has already the address that was last
found for one of the hosts in front of it. -/
theorem table_latest_iff (calls : List Call) :
    Always logged Current (SortedTable.empty, []) calls ↔
      Allowed logged (fun s call => call.force = 2 → Unspoiled call.resolver [] s.1.entries)
        (SortedTable.empty, []) calls :=
  always_iff_allowed Current (fun _ h => h) (fun _ call h hok => (h.logged_iff call).mpr hok)
    (fun _ call h hnot hcurrent => hnot ((h.logged_iff call).mp hcurrent)) (fun _ => rfl) calls

/-! ## The rewritten URL -/

/-- The text `"http"`. -/
def http : List UInt8 := [0x68, 0x74, 0x74, 0x70]

/-- A URL whose host does not occur earlier gets the address in its place and loses its scheme. -/
theorem rewritten_eq {host : List UInt8} (ipaddr rest : List UInt8)
    (hhost : ¬ host <:+: httpScheme ++ host.dropLast) :
    rewritten (httpScheme ++ (host ++ rest)) host ipaddr = ipaddr ++ rest := by
  have hne : host ≠ [] := fun h => by
    rw [h] at hhost
    exact hhost List.nil_infix
  have hscheme : ¬ httpScheme <:+: [] ++ httpScheme.dropLast := fun h =>
    absurd h.length_le (by decide)
  have hat : (httpScheme ++ (host ++ rest)).dropInfix? host = some (httpScheme, rest) := by
    rw [← List.append_assoc]
    exact (dropInfix?_append_iff hne).mpr hhost
  have hfront : (httpScheme ++ (ipaddr ++ rest)).dropInfix? httpScheme =
      some ([], ipaddr ++ rest) :=
    (dropInfix?_append_iff (List.cons_ne_nil _ _)).mpr hscheme
  have hreplaced : replaceFirst (httpScheme ++ (host ++ rest)) host ipaddr =
      httpScheme ++ (ipaddr ++ rest) := by
    rw [replaceFirst, hat]
    exact List.append_assoc _ _ _
  rw [rewritten, hreplaced, replaceFirst, hfront]
  rfl

/-- What is behind the host. -/
def behindHost (c : Parts) : List UInt8 :=
  match c.port with
  | none => c.pathText
  | some port => colon :: (port ++ c.pathText)

theorem hostText_eq (c : Parts) : c.hostText = c.host ++ behindHost c := by
  unfold Parts.hostText joined behindHost
  cases c.port <;> rfl

/-- A URL for downloads: its parts are found, and so is its host in the text. -/
structure Download (c : Parts) : Prop where
  separable : c.Separable
  scheme : c.scheme = some http
  userInfo : c.userInfo = none
  host : ¬ c.host <:+: httpScheme ++ c.host.dropLast
  name : isIP c.host ≠ 1

/-- After a run without spoiled hosts, a query for a URL whose host was found before looks nothing
up. It gives the URL without its scheme and with the address that was last found for the host, and
the host and the port of the URL. -/
theorem download_cached {calls : List Call}
    (hok : Allowed logged (fun s call => call.force = 2 → Unspoiled call.resolver [] s.1.entries)
      (SortedTable.empty, []) calls) {s : DnsTable × List Finding}
    (hs : s = final logged (SortedTable.empty, []) calls) {c : Parts} (hc : Download c)
    {addr : List UInt8} (hfound : latest s.2 c.host = some addr)
    (resolver : List UInt8 → Resolver) :
    searchDNS s.1 { url := c.text, force := 0, resolver := resolver } =
      (s.1, { ret := 0, urlIp := { c with scheme := none, host := addr }.text, host := c.host,
              port := c.port.getD defaultPort }) := by
  have hcurrent : Current s := by
    rw [hs]
    exact final_invariant _ (fun s call h hok => (h.logged_iff call).mpr hok) (fun _ => rfl) hok
  have hparse : astUriParse c.text = c.uri := (astUriParse_iff c).mpr hc.separable
  have htext : c.text = httpScheme ++ (c.host ++ behindHost c) := by
    rw [Parts.text, Parts.userText, hc.scheme, hc.userInfo, ← hostText_eq]
    rfl
  have hlength : ¬ c.text.length = 0 := by
    rw [htext, List.length_append]
    exact Nat.ne_of_gt (Nat.add_pos_left (by decide) _)
  have hfind : s.1.find c.host = some addr := (hcurrent c.host).trans hfound
  have hforce : (0 : Int) ≠ 1 ∧ (0 : Int) ≠ 2 := ⟨by decide, by decide⟩
  have hquery : query { url := c.text, force := 0, resolver := resolver } s.1 c.host =
      some (s.1, addr, []) := by
    rw [query, if_neg hforce.1, hfind]
  have hurl : rewritten c.text c.host addr = { c with scheme := none, host := addr }.text := by
    rw [htext, rewritten_eq _ _ hc.host, Parts.text, Parts.userText, hc.userInfo]
    exact (hostText_eq { c with scheme := none, userInfo := none, host := addr }).symm
  rw [searchDNS, if_neg hforce.2, if_neg hlength, hparse]
  show (if isIP c.host = 1 then _ else _) = _
  rw [if_neg hc.name]
  dsimp only
  rw [hquery, ← hurl]
  rfl

/-- The URL `http://a.cn/x`, with `1.2.3.4` for `a.cn`. -/
theorem download_cached_example :
    let c : Parts := { scheme := some http, host := [0x61, 0x2E, 0x63, 0x6E], path := some [0x78] }
    let resolver : List UInt8 → Resolver := fun _ =>
      { hostByName := .address [0x31, 0x2E, 0x32, 0x2E, 0x33, 0x2E, 0x34], server := fun _ => none }
    let s := final logged (SortedTable.empty, []) [⟨c.text, 0, resolver⟩]
    searchDNS s.1 { url := c.text, force := 0, resolver := resolver } =
      (s.1, { ret := 0
              urlIp := [0x31, 0x2E, 0x32, 0x2E, 0x33, 0x2E, 0x34, 0x2F, 0x78]
              host := [0x61, 0x2E, 0x63, 0x6E]
              port := defaultPort }) := by
  intro c resolver s
  have hseparable : c.Separable :=
    ⟨show ¬ _ from by decide, show ¬ _ from by decide, show _ ∉ _ from by decide,
      show _ ∉ _ from by decide, by decide⟩
  have hok : Allowed logged
      (fun s call => call.force = 2 → Unspoiled call.resolver [] s.1.entries)
      (SortedTable.empty, []) [⟨c.text, 0, resolver⟩] :=
    ⟨fun h => absurd (show (0 : Int) = 2 from h) (by decide), trivial⟩
  have hfound : latest s.2 c.host = some [0x31, 0x2E, 0x32, 0x2E, 0x33, 0x2E, 0x34] := by
    decide +kernel
  exact download_cached hok rfl ⟨hseparable, rfl, rfl, by decide, by decide⟩ hfound resolver

end Dns

end RVDataFusionServer
