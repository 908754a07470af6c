import Issuer.Dispatch

/-!
# What every response carries

The two ways headers are set come to the same list of entries off the cacheable paths. From that: whatever the
operations answer and whatever a handler returns, the response carries the fixed headers, and CORS headers only for an
allowed origin. The three tables of methods agree but for one kind of path.
-/

namespace Issuer

open Rust

namespace Dispatch

open Http Cors

/-! ## The entries that are set -/

def fixedEntries (requestId : String) : Headers :=
  [("X-Request-ID", requestId), ("X-Content-Type-Options", "nosniff"), ("X-Frame-Options", "DENY"),
    ("Referrer-Policy", "strict-origin-when-cross-origin"), ("Strict-Transport-Security", hsts),
    ("Permissions-Policy", permissionsPolicy), ("Cross-Origin-Embedder-Policy", "require-corp"),
    ("Cross-Origin-Opener-Policy", "same-origin"), ("Cross-Origin-Resource-Policy", "same-origin"),
    ("X-Permitted-Cross-Domain-Policies", "none")]

def baseEntries (requestId csp : String) : Headers :=
  (fixedEntries requestId).take 5 ++ ("Content-Security-Policy", csp) :: (fixedEntries requestId).drop 5

def noStoreEntries : Headers := [("Cache-Control", noStore), ("Pragma", "no-cache"), ("Expires", "0")]

def earlyCache (path : String) : Headers := if path ∈ publicPaths then [] else noStoreEntries

def lateCache (path : String) : Headers :=
  if path ∈ publicPaths then ((cacheControl path).map fun cc => ("Cache-Control", cc)).toList else noStoreEntries

def grantEntries (origin : String) : Headers :=
  [("Access-Control-Allow-Origin", origin), ("Access-Control-Allow-Methods", "POST, GET, OPTIONS"),
    ("Access-Control-Allow-Headers", "Content-Type, X-API-Key"), ("Vary", "Origin")]

def credentialEntries : Headers := [("Access-Control-Allow-Credentials", "true")]

/-- The paths that are read from other origins. -/
def sharedPath (path : String) : Bool :=
  !isInternalRoute path && (hasPrefix "/v1/" path || path == "/.well-known/jwks.json")

section
variable (U : UrlLibrary) (env : WorkerEnv) (call : Call)

def grantsOrigin : Bool := sharedPath call.request.path && call.origin != "" && env.origins.matchesOrigin U call.origin

def corsEntries : Headers :=
  if grantsOrigin U env call then
    grantEntries call.origin ++ (if env.origins.allowsCredentials U call.origin then credentialEntries else [])
  else []

variable {U env call} {resp : Response} {requestId path name : String}

theorem addBase_eq : addBaseSecurityHeaders requestId path resp =
    (resp.setAll (baseEntries requestId strictCsp)).setAll (earlyCache path) := by
  unfold addBaseSecurityHeaders earlyCache
  by_cases hpublic : path ∈ publicPaths
  · simp only [if_pos hpublic]
    rfl
  · simp only [if_neg hpublic]
    rfl

theorem cacheControl_private (hpath : path ∉ publicPaths) : cacheControl path = some noStore := by
  simp only [publicPaths, List.mem_cons, List.not_mem_nil, or_false, not_or] at hpath
  obtain ⟨h₁, h₂, h₃, h₄, h₅⟩ := hpath
  simp [cacheControl, h₁, h₂, h₃, h₄, h₅]

theorem lateCache_eq (path : String) (resp : Response) :
    (if path ∈ publicPaths then setCacheControl path resp
      else ((setCacheControl path resp).set "Pragma" "no-cache").set "Expires" "0") = resp.setAll (lateCache path) := by
  unfold lateCache setCacheControl
  by_cases hpublic : path ∈ publicPaths
  · simp only [if_pos hpublic]
    cases cacheControl path <;> rfl
  · simp only [if_neg hpublic, cacheControl_private hpublic]
    rfl

theorem early_cors : { resp with headers := addCorsHeadersEarly U resp.headers call.request.path call.origin env.origins } =
    resp.setAll (corsEntries U env call) := by
  unfold addCorsHeadersEarly corsEntries grantsOrigin sharedPath isInternalRoute
  by_cases hinternal : hasPrefix "/_internal/" call.request.path = true
  · simp [hinternal]
  · by_cases hshared : (hasPrefix "/v1/" call.request.path || call.request.path == "/.well-known/jwks.json") = true
    · by_cases horigin : call.origin = ""
      · simp [hinternal, horigin]
      · by_cases hmatches : env.origins.matchesOrigin U call.origin = true
        · by_cases hcredentials : env.origins.allowsCredentials U call.origin = true
          · simp [hinternal, hshared, horigin, hmatches, hcredentials]
            rfl
          · simp [hinternal, hshared, horigin, hmatches, hcredentials]
            rfl
        · simp [hinternal, hshared, horigin, hmatches]
    · simp [hinternal, hshared]

theorem addSecurity_eq (cspNonce : Option String) : addSecurityHeaders U env call cspNonce resp =
    ((resp.setAll (baseEntries call.requestId ((cspNonce.map docsCsp).getD strictCsp))).setAll
      (lateCache call.request.path)).setAll (corsEntries U env call) := by
  unfold addSecurityHeaders
  dsimp only
  rw [lateCache_eq]
  change (if (sharedPath call.request.path && call.origin != "") = true then _ else _) = _
  unfold corsEntries grantsOrigin
  by_cases hscope : (sharedPath call.request.path && call.origin != "") = true
  · by_cases hmatches : env.origins.matchesOrigin U call.origin = true
    · by_cases hcredentials : env.origins.allowsCredentials U call.origin = true
      · simp only [hscope, hmatches, hcredentials, Bool.and_self, if_true]
        rfl
      · simp only [hscope, hmatches, hcredentials, Bool.and_self, if_true, Bool.false_eq_true, if_false]
        rfl
    · simp only [hscope, hmatches, Bool.and_false, Bool.false_eq_true, if_true, if_false]
      rfl
  · simp only [hscope, Bool.false_and, Bool.false_eq_true, if_false]
    rfl

/-- An answer of the limit and one from behind it differ in the caching of a cacheable path only. -/
theorem refuseEarly_eq : refuseEarly U env call resp =
    ((resp.setAll (baseEntries call.requestId strictCsp)).setAll
      (earlyCache call.request.path)).setAll (corsEntries U env call) := by
  unfold refuseEarly
  rw [early_cors, addBase_eq]

end

theorem get_cache {path name : String} (hname : toAsciiLowercase name ≠ "cache-control") (resp : Response) :
    (resp.setAll (earlyCache path)).get name = (resp.setAll (lateCache path)).get name := by
  unfold earlyCache lateCache
  by_cases hpath : path ∈ publicPaths
  · rw [if_pos hpath, if_pos hpath, setAll_nil]
    cases cacheControl path with
    | none => rfl
    | some cc =>
      have hother : toAsciiLowercase "Cache-Control" ≠ toAsciiLowercase name := fun h => hname (by rw [← h]; decide)
      change resp.get name = (resp.set "Cache-Control" cc).get name
      rw [get_set, if_neg hother]
  · rw [if_neg hpath, if_neg hpath]

/-! ## Every response -/

def corsNames : List String := names (grantEntries "" ++ credentialEntries)

def cacheNames : List String := names noStoreEntries

/-- What a response to a request has to carry. -/
structure Hardened (U : UrlLibrary) (env : WorkerEnv) (call : Call) (resp : Response) : Prop where
  fixed : ∀ entry ∈ fixedEntries call.requestId, resp.get entry.1 = some entry.2
  csp : resp.get "Content-Security-Policy" = some strictCsp ∨ call.request.path = "/v1/docs" ∧ call.cspNonce ≠ "" ∧
    resp.get "Content-Security-Policy" = some (docsCsp call.cspNonce)
  cache : call.request.path ∉ publicPaths → ∀ entry ∈ noStoreEntries, resp.get entry.1 = some entry.2
  origin : ∀ origin, resp.get "Access-Control-Allow-Origin" = some origin →
    origin = call.origin ∧ grantsOrigin U env call = true

def Plain (resp : Response) : Prop := resp.get "Access-Control-Allow-Origin" = none

section
variable {U : UrlLibrary} {env : WorkerEnv} {call : Call} {resp : Response} {path requestId csp : String} {cache cors : Headers}

theorem names_base (requestId csp : String) : names (baseEntries requestId csp) = names (baseEntries "" "") := rfl

theorem names_earlyCache (path : String) : names (earlyCache path) ⊆ cacheNames := by
  unfold earlyCache
  by_cases hpath : path ∈ publicPaths
  · rw [if_pos hpath]; decide
  · rw [if_neg hpath]; decide

theorem names_lateCache (path : String) : names (lateCache path) ⊆ cacheNames := by
  unfold lateCache
  by_cases hpath : path ∈ publicPaths
  · rw [if_pos hpath]
    cases cacheControl path with
    | none => decide
    | some cc =>
      change names [("Cache-Control", "")] ⊆ cacheNames
      decide
  · rw [if_neg hpath]; decide

theorem names_cors : (names (corsEntries U env call)).Sublist corsNames := by
  unfold corsEntries
  by_cases hgrants : grantsOrigin U env call = true
  · by_cases hcredentials : env.origins.allowsCredentials U call.origin = true
    · rw [if_pos hgrants, if_pos hcredentials]
      exact List.Sublist.refl corsNames
    · rw [if_pos hgrants, if_neg hcredentials, List.append_nil]
      change (names (grantEntries "")).Sublist corsNames
      rw [corsNames, names, names, List.map_append]
      exact List.sublist_append_left _ _
  · rw [if_neg hgrants]
    exact List.nil_sublist _

theorem not_mem_of_subset {name : String} {entries : Headers} {all : List String} (hsub : names entries ⊆ all)
    (hname : toAsciiLowercase name ∉ all) : toAsciiLowercase name ∉ names entries := fun h => hname (hsub h)

theorem get_layers {name value : String} (hcache : names cache ⊆ cacheNames) (hcors : names cors ⊆ corsNames)
    (hother : toAsciiLowercase name ∉ cacheNames ++ corsNames) (hentry : (name, value) ∈ baseEntries requestId csp) :
    (((resp.setAll (baseEntries requestId csp)).setAll cache).setAll cors).get name = some value := by
  rw [List.mem_append, not_or] at hother
  rw [get_setAll_of_not_mem (not_mem_of_subset hcors hother.2), get_setAll_of_not_mem (not_mem_of_subset hcache hother.1)]
  refine get_setAll_of_mem ?_ hentry
  rw [names_base]
  decide

theorem hardened_layers (hplain : Plain resp)
    (hcache : cache = earlyCache call.request.path ∨ cache = lateCache call.request.path)
    (hcors : cors = [] ∨ cors = corsEntries U env call)
    (hcsp : csp = strictCsp ∨ call.request.path = "/v1/docs" ∧ call.cspNonce ≠ "" ∧ csp = docsCsp call.cspNonce) :
    Hardened U env call (((resp.setAll (baseEntries call.requestId csp)).setAll cache).setAll cors) := by
  have hcacheNames : names cache ⊆ cacheNames := by
    rcases hcache with rfl | rfl
    · exact names_earlyCache _
    · exact names_lateCache _
  have hcorsNames : names cors ⊆ corsNames := by
    rcases hcors with rfl | rfl
    · exact List.nil_subset _
    · exact names_cors.subset
  refine ⟨fun entry hentry => ?fixed, ?csp, fun hpath entry hentry => ?cache, fun origin horigin => ?origin⟩
  case fixed =>
    have hall : ∀ name ∈ names (fixedEntries call.requestId), name ∉ cacheNames ++ corsNames := by
      change ∀ name ∈ names (fixedEntries ""), name ∉ cacheNames ++ corsNames
      decide
    refine get_layers hcacheNames hcorsNames (hall _ (List.mem_map_of_mem hentry)) ?_
    unfold baseEntries
    rw [← List.take_append_drop 5 (fixedEntries call.requestId)] at hentry
    rcases List.mem_append.mp hentry with h | h
    · exact List.mem_append_left _ h
    · exact List.mem_append_right _ (List.mem_cons_of_mem _ h)
  case csp =>
    have hget : (((resp.setAll (baseEntries call.requestId csp)).setAll cache).setAll cors).get "Content-Security-Policy" =
        some csp :=
      get_layers hcacheNames hcorsNames (by decide) (by simp [baseEntries])
    rcases hcsp with rfl | ⟨hdocs, hnonce, rfl⟩
    · exact .inl hget
    · exact .inr ⟨hdocs, hnonce, hget⟩
  case cache =>
    have hnoStore : cache = noStoreEntries := by
      rcases hcache with rfl | rfl
      · exact if_neg hpath
      · exact if_neg hpath
    subst hnoStore
    have hall : ∀ name ∈ names noStoreEntries, name ∉ corsNames := by decide
    rw [get_setAll_of_not_mem (not_mem_of_subset hcorsNames (hall _ (List.mem_map_of_mem hentry)))]
    exact get_setAll_of_mem (by decide) hentry
  case origin =>
    have hinner : ((resp.setAll (baseEntries call.requestId csp)).setAll cache).get "Access-Control-Allow-Origin" = none := by
      rw [get_setAll_of_not_mem (not_mem_of_subset hcacheNames (by decide)), get_setAll_of_not_mem]
      · exact hplain
      · rw [names_base]; decide
    rcases hcors with rfl | rfl
    · rw [setAll_nil, hinner] at horigin
      cases horigin
    · by_cases hgrants : grantsOrigin U env call = true
      · refine ⟨?_, hgrants⟩
        have hentry : ("Access-Control-Allow-Origin", call.origin) ∈ corsEntries U env call := by
          simp [corsEntries, grantEntries, hgrants]
        have hnodup : (names (corsEntries U env call)).Nodup := names_cors.nodup (by decide)
        rw [get_setAll_of_mem hnodup hentry] at horigin
        exact (Option.some.inj horigin).symm
      · rw [corsEntries, if_neg hgrants, setAll_nil, hinner] at horigin
        cases horigin

end

/-! ## The two ways -/

theorem docsNonce_some {call : Call} {cspNonce : Option String} (h : docsNonce call = .ok cspNonce) :
    cspNonce = if call.request.path = "/v1/docs" then some call.cspNonce else none := by
  unfold docsNonce at h
  by_cases hdocs : call.request.path = "/v1/docs"
  · rw [if_pos hdocs] at h
    split at h
    · cases h
    · cases h
      rw [if_pos hdocs]
  · rw [if_neg hdocs] at h
    cases h
    rw [if_neg hdocs]

theorem get_csp {requestId csp csp' name : String} (hname : toAsciiLowercase name ≠ "content-security-policy") (resp : Response) :
    (resp.setAll (baseEntries requestId csp)).get name = (resp.setAll (baseEntries requestId csp')).get name := by
  have hother : toAsciiLowercase "Content-Security-Policy" ≠ toAsciiLowercase name := fun h => hname (by rw [← h]; decide)
  have hset : ∀ (r : Response) (csp : String), (r.setAll [("Content-Security-Policy", csp)]).get name = r.get name :=
    fun r csp => (get_set ..).trans (if_neg hother)
  have hsplit : ∀ csp, baseEntries requestId csp =
      (fixedEntries requestId).take 5 ++ ([("Content-Security-Policy", csp)] ++ (fixedEntries requestId).drop 5) := fun _ => rfl
  rw [hsplit, hsplit, setAll_append, setAll_append, setAll_append, setAll_append, get_setAll,
    get_setAll (r := Response.setAll [("Content-Security-Policy", csp')] _), hset, hset]

/-- **The two ways headers are set agree** on every path that is not cacheable: an answer of the limit is what it would
be at the end. On a cacheable path the two have the same status and body, and the same headers but for `Cache-Control`
and, on the documentation page, the content policy, where only the end admits the scripts of the page. -/
theorem early_eq_late (U : UrlLibrary) (env : WorkerEnv) (call : Call) (cspNonce : Option String)
    (hnonce : docsNonce call = .ok cspNonce) (resp : Response) :
    (call.request.path ∉ publicPaths → refuseEarly U env call resp = addSecurityHeaders U env call cspNonce resp) ∧
    (refuseEarly U env call resp).status = (addSecurityHeaders U env call cspNonce resp).status ∧
    (refuseEarly U env call resp).body = (addSecurityHeaders U env call cspNonce resp).body ∧
    (∀ name, toAsciiLowercase name ≠ "cache-control" →
      (call.request.path = "/v1/docs" → toAsciiLowercase name ≠ "content-security-policy") →
      (refuseEarly U env call resp).get name = (addSecurityHeaders U env call cspNonce resp).get name) ∧
    (call.request.path = "/v1/docs" →
      (refuseEarly U env call resp).get "Content-Security-Policy" = some strictCsp ∧
      (addSecurityHeaders U env call cspNonce resp).get "Content-Security-Policy" = some (docsCsp call.cspNonce)) := by
  have hsome := docsNonce_some hnonce
  rw [refuseEarly_eq, addSecurity_eq]
  refine ⟨?same, ?status, ?body, ?headers, ?policies⟩
  case same =>
    intro hpath
    have hdocs : call.request.path ≠ "/v1/docs" := by
      intro he
      rw [he] at hpath
      exact hpath (by decide)
    rw [hsome, if_neg hdocs, earlyCache, lateCache, if_neg hpath, if_neg hpath]
    rfl
  case status => simp only [setAll_status]
  case body => simp only [setAll_body]
  case headers =>
    intro name hname hcsp
    rw [get_setAll, get_setAll (r := Response.setAll (lateCache _) _), get_cache hname, get_setAll,
      get_setAll (r := Response.setAll (baseEntries _ ((cspNonce.map docsCsp).getD strictCsp)) _)]
    by_cases hdocs : call.request.path = "/v1/docs"
    · rw [get_csp (hcsp hdocs)]
    · rw [hsome, if_neg hdocs]
      rfl
  case policies =>
    intro hdocs
    rw [hsome, if_pos hdocs]
    exact ⟨get_layers (names_earlyCache _) names_cors.subset (by decide) (by simp [baseEntries]),
      get_layers (names_lateCache _) names_cors.subset (by decide) (by simp [baseEntries])⟩

def plainEnv : WorkerEnv := ⟨none, none, none, none, true, id⟩

def noUrls : UrlLibrary := ⟨fun _ => none, fun _ => ""⟩

def docsCall : Call := ⟨⟨.get, "/v1/docs", "", []⟩, "r1", "n1"⟩

/-- The documentation page over the limit, and let through. -/
theorem docs_policies_differ : ∃ early late : Response,
    refuseEarly noUrls plainEnv docsCall ⟨429, [], .empty⟩ = early ∧
    addSecurityHeaders noUrls plainEnv docsCall (some "n1") ⟨429, [], .empty⟩ = late ∧ early.status = late.status ∧
    early.get "Content-Security-Policy" = some strictCsp ∧ late.get "Content-Security-Policy" = some (docsCsp "n1") := by
  obtain ⟨-, hstatus, -, -, hpolicies⟩ := early_eq_late noUrls plainEnv docsCall (some "n1") rfl ⟨429, [], .empty⟩
  exact ⟨_, _, rfl, rfl, hstatus, hpolicies rfl⟩

/-! ## Responses before their headers -/

section
variable {env : WorkerEnv} {call : Call}

theorem plain_set {name value : String} {resp : Response} (hname : toAsciiLowercase name ≠ "access-control-allow-origin")
    (hplain : Plain resp) : Plain (resp.set name value) := by
  have hcors : toAsciiLowercase "Access-Control-Allow-Origin" = "access-control-allow-origin" := by decide
  unfold Plain
  rw [get_set, hcors, if_neg hname]
  exact hplain

theorem plain_fromJson (body : Body) (status : Nat) : Plain ((Response.fromJson body).withStatus status) := by
  unfold Plain
  change getHeader "Access-Control-Allow-Origin" [("Content-Type", "application/json")] = none
  decide

theorem plain_withStatus {resp : Response} {status : Nat} (hplain : Plain resp) : Plain (resp.withStatus status) := hplain

theorem plain_error (e : Error) : Plain e.toResponse := by
  unfold Error.toResponse
  dsimp only
  have hjson := @plain_set "Content-Type" "application/json; charset=utf-8" _ (by decide)
    (plain_fromJson (.error e.parts.2.2 e.parts.2.1) e.parts.1)
  have hcache := @plain_set "Cache-Control" "no-store, no-cache, must-revalidate, private" _ (by decide) hjson
  have hbase := @plain_set "Expires" "0" _ (by decide) (@plain_set "Pragma" "no-cache" _ (by decide) hcache)
  by_cases hstatus : e.parts.1 = 503
  · by_cases hsite : e.clearsSiteData = true
    · rw [if_pos hstatus, if_pos hsite]
      exact plain_set (by decide) (plain_set (by decide) hbase)
    · rw [if_pos hstatus, if_neg hsite]
      exact plain_set (by decide) hbase
  · by_cases hsite : e.clearsSiteData = true
    · rw [if_neg hstatus, if_pos hsite]
      exact plain_set (by decide) hbase
    · rw [if_neg hstatus, if_neg hsite]
      exact hbase

theorem plain_rejection : Plain rejectionResponse := by
  unfold Plain
  decide

theorem plain_limit (result : RateLimitResult) :
    (rateLimitOrUnavailableResponse result).Safe (fun _ => True) (fun _ _ => True) Plain := by
  have hjson : ∀ body, Plain (Response.fromJson body) := fun body => plain_fromJson body 200
  unfold rateLimitOrUnavailableResponse
  by_cases hread : result.readFailed = true
  · rw [if_pos hread]
    exact plain_withStatus (plain_set (by decide) (plain_set (by decide) (plain_set (by decide) (hjson _))))
  · rw [if_neg hread]
    refine Prog.safe_op trivial fun now _ => ?_
    exact plain_withStatus (plain_set (by decide) (plain_set (by decide) (plain_set (by decide) (plain_set (by decide)
      (plain_set (by decide) (hjson _))))))

theorem plain_options : Plain (optionsResponse env call) :=
  plain_set (by decide) (plain_set (by decide) (show Plain ⟨204, [], .empty⟩ from rfl))

theorem plain_methodNotAllowed (allowed : List Method) : Plain (methodNotAllowed allowed) :=
  plain_set (by decide) (plain_set (by decide) (plain_fromJson _ 405))

end

/-! ## The worker -/

section
variable {U : UrlLibrary} {env : WorkerEnv} {router : RouterLibrary}
  {handlers : Route → String → Request → Limits (Except Unit Response)}
  (hhandlers : ∀ route param req, (handlers route param req).Safe (fun _ => True) (fun _ _ => True)
    fun result => ∀ resp, result = .ok resp → Plain resp)
  (hown : ∀ method path resp, router (routes env) method path = .own resp → Plain resp)
include hhandlers hown

theorem runRouter_plain (call : Call) : (runRouter env call router handlers).Safe (fun _ => True) (fun _ _ => True)
    fun result => ∀ resp, result = .ok resp → Plain resp := by
  have hok : ∀ {resp : Response}, Plain resp → (Prog.ret (.ok resp) : Limits (Except Unit Response)).Safe (fun _ => True)
      (fun _ _ => True) fun result => ∀ resp, result = .ok resp → Plain resp := by
    intro resp hplain resp' h
    cases h
    exact hplain
  unfold runRouter
  cases hroute : router (routes env) call.request.method call.request.path with
  | anyMethod => exact hok (plain_error _)
  | own resp => exact hok (hown _ _ _ hroute)
  | handler route param =>
    change (runRoute call handlers route param).Safe _ _ _
    unfold runRoute
    by_cases hcatchall : route = .catchall
    · rw [if_pos hcatchall]
      exact hok (plain_error _)
    · rw [if_neg hcatchall]
      by_cases hinternal : route.isInternal = true
      · rw [if_pos hinternal]
        unfold rejectExternalInternalTraffic
        by_cases hip : (getHeader "CF-Connecting-IP" call.request.headers).getD "" = ""
        · rw [if_pos hip]
          exact hhandlers route param call.request
        · rw [if_neg hip]
          exact hok (plain_error _)
      · rw [if_neg hinternal]
        exact hhandlers route param call.request

theorem respond_plain (call : Call) : (respond env call router handlers).Safe (fun _ => True) (fun _ _ => True) Plain := by
  unfold respond
  by_cases hoptions : call.request.method = .options
  · rw [if_pos hoptions]
    exact plain_options
  · rw [if_neg hoptions]
    dsimp only
    split
    · exact plain_methodNotAllowed _
    · refine Prog.safe_bind _ (runRouter_plain hhandlers hown call) fun result hresult => ?_
      cases result with
      | ok resp => exact hresult resp rfl
      | error u => exact plain_error _

/-- Whatever the operations answer, the response is hardened. -/
theorem main_hardened (call : Call) :
    (main U env call router handlers).Safe (fun _ => True) (fun _ _ => True) (Hardened U env call) := by
  have hearly : ∀ {resp : Response}, Plain resp →
      Hardened U env call (addBaseSecurityHeaders call.requestId call.request.path resp) := by
    intro resp hplain
    rw [addBase_eq, ← setAll_nil (r := Response.setAll _ _)]
    exact hardened_layers hplain (.inl rfl) (.inl rfl) (.inl rfl)
  have hlimit : ∀ {resp : Response}, Plain resp → Hardened U env call (refuseEarly U env call resp) := by
    intro resp hplain
    rw [refuseEarly_eq]
    exact hardened_layers hplain (.inl rfl) (.inr rfl) (.inl rfl)
  have hbehind : (behindLimit U env call router handlers).Safe (fun _ => True) (fun _ _ => True) (Hardened U env call) := by
    have hlate : ∀ cspNonce, (cspNonce.map docsCsp).getD strictCsp = strictCsp ∨ call.request.path = "/v1/docs" ∧
        call.cspNonce ≠ "" ∧ (cspNonce.map docsCsp).getD strictCsp = docsCsp call.cspNonce →
        (respond env call router handlers >>= fun resp => pure (addSecurityHeaders U env call cspNonce resp)).Safe
          (fun _ => True) (fun _ _ => True) (Hardened U env call) := by
      intro cspNonce hcsp
      refine Prog.safe_bind _ (respond_plain hhandlers hown call) fun resp hplain => ?_
      change Hardened U env call (addSecurityHeaders U env call cspNonce resp)
      rw [addSecurity_eq]
      exact hardened_layers hplain (.inr rfl) (.inr rfl) hcsp
    unfold behindLimit checkFetchMetadata docsNonce
    dsimp only
    by_cases hdocs : call.request.path = "/v1/docs"
    · simp only [hdocs, true_or, if_true]
      by_cases hnonce : call.cspNonce = ""
      · simp only [hnonce, if_true]
        rw [← hdocs]
        exact hearly (plain_error _)
      · simp only [if_neg hnonce]
        exact hlate (some call.cspNonce) (.inr ⟨hdocs, hnonce, rfl⟩)
    · simp only [hdocs, false_or, if_false]
      split
      · rename_i resp hfetch
        split at hfetch
        · cases hfetch
        · split at hfetch
          · cases hfetch
          · cases hfetch
            exact hearly (plain_error _)
      · exact hlate none (.inl rfl)
  unfold main beforeLimit
  cases checkBody call.request with
  | error e => exact hearly (plain_error e)
  | ok u =>
    have hrejected : ∀ resp, checkPrefixRejection env call.request = .error resp → Plain resp := by
      intro resp h
      unfold checkPrefixRejection at h
      split at h
      · cases h
      · split at h
        · cases h
        · cases h
          exact plain_rejection
    cases hcheck : checkPrefixRejection env call.request with
    | error resp => exact hearly (hrejected resp hcheck)
    | ok u =>
      refine Prog.safe_bind (Q := fun result => ∀ resp, result = .error resp → Hardened U env call resp) _ ?_
        fun result hresult => ?_
      · unfold globalLimit
        dsimp only
        split
        · refine Prog.safe_bind (Q := fun _ => True) _ ?_ fun rl _ => ?_
          · exact Prog.safe_any _
          · split
            · intro resp h
              cases h
            · refine Prog.safe_bind _ (plain_limit rl) fun resp hplain resp' h => ?_
              cases h
              exact hlimit hplain
        · intro resp h
          cases h
          exact hlimit (plain_error _)
      · cases result with
        | error resp => exact hresult resp rfl
        | ok u => exact hbehind

end

/-- **Every response is hardened.** Requests are handled in any interleaving, with faults and alarms. As long as the
handlers set no CORS headers, every response carries the fixed headers and a content policy; off the cacheable paths
it may not be stored; and it allows an origin only where the request came from it, it is on the list, and the path is
one that is read from other origins. -/
theorem responses_hardened (U : UrlLibrary) (env : WorkerEnv) (router : RouterLibrary)
    (handlers : Route → String → Request → Limits (Except Unit Response))
    (hhandlers : ∀ route param req, (handlers route param req).Safe (fun _ => True) (fun _ _ => True)
      fun result => ∀ resp, result = .ok resp → Plain resp)
    (hown : ∀ method path resp, router (routes env) method path = .own resp → Plain resp)
    (calls : Nat → Call) (w : LimitsWorld) (turns : List (Turn Tick LockAlarm)) (i : Nat) (resp : Response)
    (hresp : (Runs.exec (Pool.step LimitsWorld.handle LimitsWorld.react)
      ⟨w, fun i => main U env (calls i) router handlers⟩ turns).procs i = .ret resp) : Hardened U env (calls i) resp := by
  have hpool := (Pool.pool_safe LimitsWorld.handle LimitsWorld.react (P := fun _ => True) (A := fun _ _ => True)
    (R := fun _ => True) (Q := fun i resp => Hardened U env (calls i) resp) (fun _ _ _ _ _ => ⟨trivial, trivial⟩)
    (fun _ _ _ => trivial) turns ⟨w, fun i => main U env (calls i) router handlers⟩ trivial
    fun i => main_hardened hhandlers hown (calls i)).2 i
  rw [hresp] at hpool
  exact hpool

/-- A worker with one handler. -/
def plainHandlers (_ : Route) (_ : String) (_ : Request) : Limits (Except Unit Response) :=
  pure (.ok ⟨200, [], .text "ok"⟩)

def challengeRouter : RouterLibrary := fun _ _ _ => .handler .challenge ""

/-- Knows the URL of one host. -/
def appUrls : UrlLibrary := ⟨fun s => if s == "https://app.provii.app" then some ⟨"https", some (.domain "app.provii.app"), none⟩ else none,
  fun _ => ""⟩

def quietWorld : LimitsWorld := ⟨fun _ => .empty, {}⟩

def appCall : Call := ⟨⟨.post, "/v1/challenge", "", [("Origin", "https://app.provii.app"), ("Content-Length", "2"),
  ("Content-Type", "application/json")]⟩, "r1", "n1"⟩

/-- A request from an allowed origin to a path that is read from other origins. -/
theorem app_hardened : ∃ resp, (Runs.exec (Pool.step LimitsWorld.handle LimitsWorld.react)
      ⟨quietWorld, fun _ => main appUrls plainEnv appCall challengeRouter plainHandlers⟩
      (List.replicate 4 (.proc 0 (.at 7200000)))).procs 0 = .ret resp ∧ resp.status = 200 ∧
        resp.get "Access-Control-Allow-Origin" = some "https://app.provii.app" ∧ Hardened appUrls plainEnv appCall resp := by
  refine ⟨_, rfl, rfl, by decide +kernel, ?_⟩
  refine responses_hardened appUrls plainEnv challengeRouter plainHandlers ?_ ?_ (fun _ => appCall) quietWorld
    (List.replicate 4 (.proc 0 (.at 7200000))) 0 _ rfl
  · intro route param req resp h
    cases h
    rfl
  · intro method path resp h
    cases h

end Dispatch

end Issuer
