import ApertureC.ClientUi
import ApertureC.ClientWorkers
import ApertureC.DisplayConfigWire
import ApertureC.Lib.Collect
import ApertureC.Lib.IpAddr
import ApertureC.PartitionShares
import ApertureC.RateLimit
import ApertureC.Tunnel

/-!
# The handshake

The client asks (`Client::get_init` in `aperturec-client/src/lib.rs`, `into_tunnel_requests` in
`args.rs`), the server looks at the request and answers (`try_transition` of `SessionInactive` in
`aperturec-server/src/server.rs`, `generate_responses` in `task/tunnel_channel_handler.rs`), and the
client looks at the answer (`Client::connect`).

* `Proto.ClientInit`, `Proto.ServerInit` — the messages; `ServerMessage` is what the server writes
  to the control channel.
* `PortForwardArg.intoTunnelRequests`, `generateResponses` — the tunnels that are asked for, and
  those that the server makes of them.
* `prepare` — what the server decides before it looks at its own token, over the `Answers` of the
  backend, the sockets and the launched program.
* `getInit`, `connect` — the two ends of the handshake in the client.

Principal results: `tunnels_agree_iff` (**both sides hold the same tunnels**, unless the side of one
is unknown), `prepare_ready` (what a prepared session was promised) and `connect_of_ready` (**the
client accepts what the server offers it**).
-/

set_option autoImplicit false

namespace ApertureC

open Geometry

/-! ## Messages -/

namespace Proto

/-- `tunnel::Description` -/
structure Description where
  side : Int
  protocol : Int
  bindAddress : String
  bindPort : Nat
  forwardAddress : String
  forwardPort : Nat
  deriving DecidableEq, Repr

/-- `tunnel::response::Message` -/
inductive ResponseMessage where
  | success (desc : Description)
  | failure (reason : String)
  deriving DecidableEq, Repr

/-- `tunnel::Response` -/
structure Response where
  message : Option ResponseMessage
  deriving DecidableEq, Repr

/-- `control::ClientInit`; of the `ClientInfo` the displays, of the `ClientCaps` the codecs. -/
structure ClientInit where
  authToken : String
  clientInfo : Option (List DisplayInfo)
  clientCaps : Option (List Int)
  maxDecoderCount : Nat
  clientSpecifiedProgramCmdline : String
  mbpsMax : Nat
  isCapsLocked : Bool
  isNumLocked : Bool
  isScrollLocked : Bool
  tunnelRequests : Std.ExtTreeMap Nat Description

/-- `control::ServerInit` -/
structure ServerInit where
  clientId : Nat
  serverName : String
  displayConfiguration : Option DisplayConfiguration
  tunnelResponses : Std.ExtTreeMap Nat Response

end Proto

namespace Handshake

/-- `server_to_client::Message` of the control channel. -/
inductive ServerMessage where
  | serverInit (init : Proto.ServerInit)
  | serverGoodbye (reason : ServerGoodbyeReason)

/-! ## Tunnels -/

/-- What the client's tunnel channel keeps of a description. -/
def toTunnel (desc : Proto.Description) : Tunnel.Description :=
  ⟨desc.side, desc.forwardAddress, desc.forwardPort⟩

/-- `Response::message`, as the client's tunnel channel reads it. -/
def toTunnelResponse (r : Proto.Response) : Option Tunnel.Response :=
  r.message.map fun
    | .success desc => .success (toTunnel desc)
    | .failure reason => .failure reason

/-- `desc.side()`: an unknown number is the default side. -/
def getSide (desc : Proto.Description) : Tunnel.Side := (toTunnel desc).getSide

inductive Protocol where
  | tcp
  deriving DecidableEq, Repr

/-- `TryFrom<i32> for Protocol` -/
def Protocol.tryFrom : Int → Option Protocol
  | 0 => some .tcp
  | _ => none

/-- `desc.protocol()`: an unknown number is the default protocol. -/
def getProtocol (desc : Proto.Description) : Protocol := (Protocol.tryFrom desc.protocol).getD .tcp

/-- `PortForwardArg` -/
structure PortForwardArg where
  bindAddr : Option String
  bindPort : Nat
  forwardAddr : String
  forwardPort : Nat
  deriving DecidableEq, Repr

/-- The closure `arg2desc`. -/
def PortForwardArg.toDesc (side : Int) (arg : PortForwardArg) : Proto.Description :=
  ⟨side, 0, arg.bindAddr.getD "", arg.bindPort, arg.forwardAddr, arg.forwardPort⟩

/-- `PortForwardArg::into_tunnel_requests` -/
def PortForwardArg.intoTunnelRequests (clientBound serverBound : List PortForwardArg) :
    Std.ExtTreeMap Nat Proto.Description :=
  .ofList ((clientBound.map (toDesc 0) ++ serverBound.map (toDesc 1)).zipIdx.map fun d => (d.2, d.1))

/-- `tc_handler::Tunnel`, without its listener. -/
inductive ServerTunnel where
  | clientBound (desc : Proto.Description)
  | serverBound (desc : Proto.Description)
  deriving DecidableEq, Repr

/-- Binding and listening for a tunnel: the local address and port, or the text of the error. -/
abbrev Listen := Nat → Net.IpAddr → Nat → Except String (String × Nat)

/-- `Ipv4Addr::UNSPECIFIED` -/
def unspecified : Net.IpAddr := .v4 ⟨0, 0, 0, 0⟩

/-- The listener of one server-bound tunnel. -/
def bindServer (listen : Listen) (id : Nat) (desc : Proto.Description) :
    Except String ServerTunnel :=
  match (if desc.bindAddress = "" then some unspecified else Net.IpAddr.parse desc.bindAddress) with
  | none => .error "invalid IP address syntax"
  | some ip =>
    if desc.bindPort < 65536 then
      (listen id ip desc.bindPort).map fun local_addr =>
        .serverBound { desc with bindAddress := local_addr.1, bindPort := local_addr.2 }
    else .error "out of range integral type conversion attempted"

def clientBoundTunnels (requests : Std.ExtTreeMap Nat Proto.Description) :
    List (Nat × Except String ServerTunnel) :=
  ((requests.toList.filter fun r => getSide r.2 = .client).filter fun r =>
    getProtocol r.2 = .tcp).map fun r => (r.1, .ok (.clientBound r.2))

def serverBoundTunnels (listen : Listen) (requests : Std.ExtTreeMap Nat Proto.Description) :
    List (Nat × Except String ServerTunnel) :=
  ((requests.toList.filter fun r => getSide r.2 = .server).filter fun r =>
    getProtocol r.2 = .tcp).map fun r => (r.1, bindServer listen r.1 r.2)

def tunnelResults (listen : Listen) (requests : Std.ExtTreeMap Nat Proto.Description) :
    Std.ExtTreeMap Nat (Except String ServerTunnel) :=
  .ofList (clientBoundTunnels requests ++ serverBoundTunnels listen requests)

def responseOf : Except String ServerTunnel → Proto.Response
  | .ok (.serverBound desc) => ⟨some (.success desc)⟩
  | .ok (.clientBound desc) => ⟨some (.success desc)⟩
  | .error e => ⟨some (.failure e)⟩

/-- `generate_responses` -/
def generateResponses (listen : Listen) (requests : Std.ExtTreeMap Nat Proto.Description) :
    Std.ExtTreeMap Nat Proto.Response × Std.ExtTreeMap Nat ServerTunnel :=
  let results := tunnelResults listen requests
  (results.map fun _ r => responseOf r, results.filterMap fun _ r => r.toOption)

/-- What becomes of one request. -/
def resultOf (listen : Listen) (id : Nat) (desc : Proto.Description) : Except String ServerTunnel :=
  match getSide desc with
  | .client => .ok (.clientBound desc)
  | .server => bindServer listen id desc

theorem getProtocol_eq (desc : Proto.Description) : getProtocol desc = .tcp := by
  cases getProtocol desc
  rfl

theorem getElem?_tunnelResults (listen : Listen) (requests : Std.ExtTreeMap Nat Proto.Description)
    (id : Nat) : (tunnelResults listen requests)[id]? = requests[id]?.map (resultOf listen id) := by
  have htcp : ∀ l : List (Nat × Proto.Description),
      (l.filter fun r => getProtocol r.2 = .tcp) = l := by
    intro l
    apply List.filter_eq_self.mpr
    intro r _
    exact decide_eq_true (getProtocol_eq r.2)
  unfold tunnelResults clientBoundTunnels serverBoundTunnels
  rw [htcp, htcp, Collect.getElem?_ofList_split requests (fun r => decide (getSide r.2 = .client))
    (fun r => decide (getSide r.2 = .server)) (fun r => .ok (.clientBound r.2))
    (fun r => bindServer listen r.1 r.2)]
  · congr 1
    funext desc
    unfold resultOf
    cases getSide desc <;> rfl
  · intro r
    cases getSide r.2 <;> rfl

/-- **Every request is answered, and nothing else.** -/
theorem getElem?_responses (listen : Listen) (requests : Std.ExtTreeMap Nat Proto.Description)
    (id : Nat) : (generateResponses listen requests).1[id]? =
      requests[id]?.map fun desc => responseOf (resultOf listen id desc) := by
  rw [generateResponses, Std.ExtTreeMap.getElem?_map, getElem?_tunnelResults, Option.map_map]
  rfl

theorem getElem?_tunnels (listen : Listen) (requests : Std.ExtTreeMap Nat Proto.Description)
    (id : Nat) : (generateResponses listen requests).2[id]? =
      requests[id]?.bind fun desc => (resultOf listen id desc).toOption := by
  rw [generateResponses, Std.ExtTreeMap.getElem?_filterMap', getElem?_tunnelResults,
    Option.bind_map]
  rfl

/-! ### The client's allocations -/

/-- The description of a successful response, when it is on a side. -/
def allocation (side : Tunnel.Side) : Option (Option Tunnel.Response) → Option Tunnel.Description
  | some (some (.success desc)) =>
    if Tunnel.Side.tryFrom desc.side = some side then some desc else none
  | _ => none

variable (allocated : Std.ExtTreeMap Nat (Option Tunnel.Response))

theorem getElem?_add (t : Tunnel.Tunnels) (tunnel id : Nat) :
    (t.add allocated tunnel).clientBound[id]? =
        (if id = tunnel then allocation .client allocated[tunnel]? else none).or
          t.clientBound[id]? ∧
      (t.add allocated tunnel).serverBound[id]? =
        (if id = tunnel then allocation .server allocated[tunnel]? else none).or
          t.serverBound[id]? := by
  unfold Tunnel.Tunnels.add
  split
  · rename_i desc hdesc
    rw [hdesc]
    cases hside : Tunnel.Side.tryFrom desc.side with
    | none => simp [allocation, hside]
    | some side =>
      by_cases hid : id = tunnel
      · subst hid
        cases side <;> simp [allocation, hside]
      · have hne : ¬ tunnel = id := fun h => hid h.symm
        cases side <;> simp [hid, hne, Std.ExtTreeMap.getElem?_insert]
  · rename_i hnot
    have hnone : ∀ side, allocation side allocated[tunnel]? = none := by
      intro side
      unfold allocation
      split
      · rename_i desc hdesc
        exact absurd hdesc (hnot desc)
      · rfl
    simp [hnone]

theorem getElem?_foldl_add (id : Nat) : ∀ (requested : List Nat) (t : Tunnel.Tunnels),
    (requested.foldl (Tunnel.Tunnels.add allocated) t).clientBound[id]? =
        (if id ∈ requested then allocation .client allocated[id]? else none).or
          t.clientBound[id]? ∧
      (requested.foldl (Tunnel.Tunnels.add allocated) t).serverBound[id]? =
        (if id ∈ requested then allocation .server allocated[id]? else none).or
          t.serverBound[id]?
  | [], t => by simp
  | tunnel :: requested, t => by
    obtain ⟨hclient, hserver⟩ := getElem?_foldl_add id requested (t.add allocated tunnel)
    obtain ⟨hc, hs⟩ := getElem?_add allocated t tunnel id
    rw [List.foldl_cons, hclient, hserver, hc, hs]
    by_cases hid : id = tunnel
    · subst hid
      by_cases hmem : id ∈ requested <;> simp [hmem, ← Option.or_assoc]
    · simp [hid]

theorem getElem?_allocate (requested : List Nat) (id : Nat) :
    (Tunnel.Tunnels.allocate requested allocated).clientBound[id]? =
        (if id ∈ requested then allocation .client allocated[id]? else none) ∧
      (Tunnel.Tunnels.allocate requested allocated).serverBound[id]? =
        (if id ∈ requested then allocation .server allocated[id]? else none) := by
  obtain ⟨hc, hs⟩ := getElem?_foldl_add allocated id requested ⟨∅, ∅⟩
  rw [Tunnel.Tunnels.allocate, hc, hs]
  simp

/-- The loop of the client's `setup` over the responses to its requests. -/
def clientTunnels (requests : Std.ExtTreeMap Nat Proto.Description)
    (responses : Std.ExtTreeMap Nat Proto.Response) : Tunnel.Tunnels :=
  .allocate requests.keys (responses.map fun _ r => toTunnelResponse r)

def ServerTunnel.desc : ServerTunnel → Proto.Description
  | .clientBound desc => desc
  | .serverBound desc => desc

def ServerTunnel.side : ServerTunnel → Tunnel.Side
  | .clientBound _ => .client
  | .serverBound _ => .server

/-- The tunnel of the server, when it is bound on a side, as the client keeps it. -/
def boundOn (side : Tunnel.Side) (t : ServerTunnel) : Option Tunnel.Description :=
  if t.side = side then some (toTunnel t.desc) else none

/-- Both sides hold a tunnel, bound on the same side and with the same address at its other end, or
neither does. -/
def Agree (tunnels : Std.ExtTreeMap Nat ServerTunnel) (client : Tunnel.Tunnels) (id : Nat) : Prop :=
  client.clientBound[id]? = tunnels[id]?.bind (boundOn .client) ∧
    client.serverBound[id]? = tunnels[id]?.bind (boundOn .server)

/-- A tunnel that is made is the one that was asked for, apart from the address it is bound to. -/
theorem resultOf_ok {listen : Listen} {id : Nat} {desc : Proto.Description} {t : ServerTunnel}
    (h : resultOf listen id desc = .ok t) :
    t.side = getSide desc ∧ toTunnel t.desc = toTunnel desc := by
  unfold resultOf at h
  cases hside : getSide desc with
  | client =>
    rw [hside] at h
    cases h
    exact ⟨rfl, rfl⟩
  | server =>
    rw [hside] at h
    simp only [bindServer] at h
    split at h
    · cases h
    · split at h
      · cases hlisten : listen id _ desc.bindPort with
        | error e =>
          rw [hlisten] at h
          cases h
        | ok local_addr =>
          rw [hlisten] at h
          cases h
          exact ⟨rfl, rfl⟩
      · cases h

/-- What the client makes of the response to one request. -/
theorem allocation_resultOf (listen : Listen) (id : Nat) (desc : Proto.Description)
    (side : Tunnel.Side) :
    allocation side (some (toTunnelResponse (responseOf (resultOf listen id desc)))) =
      if Tunnel.Side.tryFrom desc.side = none then none
      else (resultOf listen id desc).toOption.bind (boundOn side) := by
  cases hres : resultOf listen id desc with
  | error e => simp [allocation, responseOf, toTunnelResponse, Except.toOption]
  | ok t =>
    obtain ⟨hside, hdesc⟩ := resultOf_ok hres
    have hresp : toTunnelResponse (responseOf (.ok t)) = some (.success (toTunnel t.desc)) := by
      cases t <;> rfl
    have hnum : (toTunnel t.desc).side = desc.side := by
      rw [hdesc]
      rfl
    rw [hresp]
    simp only [allocation, hnum, Except.toOption, Option.bind_some, boundOn, hside]
    cases htry : Tunnel.Side.tryFrom desc.side with
    | none => simp
    | some s =>
      have hget : getSide desc = s := by
        simp [getSide, Tunnel.Description.getSide, toTunnel, htry]
      simp [hget]

/-- **Both sides hold the same tunnels**, whatever is asked for and however binding and listening
turn out, exactly for the requests whose side is known: a tunnel whose side is not known is bound on
the client's side by the server, and dropped by the client.  A tunnel that the server holds was asked
for, with this side and this address at its other end. -/
theorem tunnels_agree_iff (listen : Listen) (requests : Std.ExtTreeMap Nat Proto.Description)
    (id : Nat) :
    (Agree (generateResponses listen requests).2
        (clientTunnels requests (generateResponses listen requests).1) id ↔
      ∀ desc : Proto.Description, requests[id]? = some desc →
        Tunnel.Side.tryFrom desc.side ≠ none) ∧
    ∀ t, (generateResponses listen requests).2[id]? = some t →
      ∃ desc, requests[id]? = some desc ∧ t.side = getSide desc ∧
        toTunnel t.desc = toTunnel desc := by
  have hclient : ∀ side, allocation side
      ((generateResponses listen requests).1.map fun _ r => toTunnelResponse r)[id]? =
        requests[id]?.bind fun desc => if Tunnel.Side.tryFrom desc.side = none then none
          else (resultOf listen id desc).toOption.bind (boundOn side) := by
    intro side
    rw [Std.ExtTreeMap.getElem?_map, getElem?_responses]
    cases requests[id]? with
    | none => rfl
    | some desc => exact allocation_resultOf listen id desc side
  constructor
  · obtain ⟨hc, hs⟩ := getElem?_allocate
      ((generateResponses listen requests).1.map fun _ r => toTunnelResponse r) requests.keys id
    rw [Agree, clientTunnels, hc, hs, hclient, hclient, getElem?_tunnels]
    cases hreq : requests[id]? with
    | none => simp
    | some desc =>
      have hmem : id ∈ requests.keys := by
        rw [Std.ExtTreeMap.mem_keys, Std.ExtTreeMap.mem_iff_isSome_getElem?, hreq]
        rfl
      simp only [hmem, if_true, Option.bind_some, Option.some.injEq, forall_eq']
      cases htry : Tunnel.Side.tryFrom desc.side with
      | some side => simp
      | none =>
        -- the server takes the default side
        have hdefault : getSide desc = .client := by
          simp [getSide, Tunnel.Description.getSide, toTunnel, htry]
        simp [resultOf, hdefault, Except.toOption, boundOn, ServerTunnel.side]
  · intro t ht
    rw [getElem?_tunnels, Option.bind_eq_some_iff] at ht
    obtain ⟨desc, hreq, ht⟩ := ht
    cases hres : resultOf listen id desc with
    | error e =>
      rw [hres] at ht
      cases ht
    | ok t' =>
      rw [hres] at ht
      cases ht
      exact ⟨desc, hreq, resultOf_ok hres⟩

/-! ## The server looks at the request -/

/-- `server::Configuration`, as far as a session depends on it. -/
structure Configuration where
  name : String
  allowClientExec : Bool
  mbpsMax : Option Nat
  deriving DecidableEq, Repr

/-- What the sockets, the client's program (`parse_create_command` and `Backend::initialize`) and the
backend of the session answer. -/
structure Answers where
  listen : Listen
  launch : String → Bool
  setDisplays : List Display → Except (List Display) SetDisplaysSuccess
  setLockState : Bool → Bool → Bool → Bool

/-- `u32::try_into::<usize>()` -/
def usizeTryFrom (n : Nat) : Option Nat := if n < 2 ^ 64 then some n else none

/-- The choice of the codec: JPEG XL before zlib before raw. -/
def chooseCodec : Option (List Int) → Codec
  | some supportedCodecs =>
    if Codec.jpegxl.toInt ∈ supportedCodecs then .jpegxl
    else if Codec.zlib.toInt ∈ supportedCodecs then .zlib
    else .raw
  | none => .raw

/-- What a session starts with. -/
structure Plan where
  displays : List Display
  encoderAreas : List (List Box2D)
  displayConfiguration : Proto.DisplayConfiguration
  maxEncoderCount : Nat
  codec : Codec
  rlConfig : RateLimit.Configuration
  tunnelResponses : Std.ExtTreeMap Nat Proto.Response
  tunnels : Std.ExtTreeMap Nat ServerTunnel

/-- How the preparation of a session ends; `launched` says whether the client's program runs. -/
inductive Prepared where
  | refused (launched : Bool) (reason : ServerGoodbyeReason)
  -- the locks could not be set, and nothing is said
  | failed (launched : Bool)
  | panicked
  | ready (launched : Bool) (plan : Plan)

/-- The client's program, when it names one. -/
def launchClient (config : Configuration) (ans : Answers) (cmdline : String) :
    Except ServerGoodbyeReason Bool :=
  if cmdline = "" then .ok false
  else if !config.allowClientExec then .error .clientExecDisallowed
  else if ans.launch cmdline then .ok true
  else .error .processLaunchFailed

/-- The displays and the areas of the encoders. -/
def prepareDisplays (ans : Answers) (clientDisplays : List Display) (maxDecoderCount : Nat) :
    Option (Except ServerGoodbyeReason
      (List Display × List (List Box2D) × Proto.DisplayConfiguration)) :=
  match ans.setDisplays clientDisplays with
  | .error _ => some (.error .internalError)
  | .ok success =>
    match partitionDisplays success.displays maxDecoderCount with
    | none => none
    | some (.error _) => some (.error .internalError)
    | some (.ok areas) =>
      match displayConfigFromParts 0 success.displays areas with
      | .error _ => some (.error .internalError)
      | .ok displayConfiguration => some (.ok (success.displays, areas, displayConfiguration))

/-- `try_transition` of `SessionInactive`, from the session on up to the token. -/
def prepare (config : Configuration) (ans : Answers) (ci : Proto.ClientInit) : Prepared :=
  if ci.maxDecoderCount < 1 then .refused false .invalidConfiguration
  else
    match usizeTryFrom ci.mbpsMax with
    | none => .refused false .invalidConfiguration
    | some clientMbpsMax =>
      match ci.clientInfo with
      | none => .refused false .invalidConfiguration
      | some infos =>
        match infos.mapM Display.tryFrom with
        | .error _ => .refused false .invalidConfiguration
        | .ok clientDisplays =>
          let (tunnelResponses, tunnels) := generateResponses ans.listen ci.tunnelRequests
          match launchClient config ans ci.clientSpecifiedProgramCmdline with
          | .error reason => .refused false reason
          | .ok launched =>
            match prepareDisplays ans clientDisplays ci.maxDecoderCount with
            | none => .panicked
            | some (.error reason) => .refused launched reason
            | some (.ok (displays, encoderAreas, displayConfiguration)) =>
              if ans.setLockState ci.isCapsLocked ci.isNumLocked ci.isScrollLocked then
                .ready launched
                  { displays, encoderAreas, displayConfiguration
                    maxEncoderCount := ci.maxDecoderCount
                    codec := chooseCodec ci.clientCaps
                    rlConfig := .new config.mbpsMax clientMbpsMax
                    tunnelResponses, tunnels }
              else .failed launched

/-- The `ServerInit` of a plan. -/
def Plan.serverInit (plan : Plan) (clientId : Nat) (serverName : String) : Proto.ServerInit :=
  ⟨clientId, serverName, some plan.displayConfiguration, plan.tunnelResponses⟩

/-! ### What is promised -/

/-- The total number of areas is the number of decoders. -/
theorem sum_length_partitionDisplays {displays : List Display} {n : Nat}
    {areas : List (List Box2D)} (h : partitionDisplays displays n = some (.ok areas)) :
    (areas.map List.length).sum = n := by
  rcases partitionDisplays_spec displays n with ⟨h₀, h₁, -⟩ | ⟨-, e, he⟩
  · rw [partitionDisplays, if_neg (by omega), if_neg (by omega), if_neg (by omega)] at h
    obtain ⟨areas', heach, hok⟩ := Option.map_eq_some_iff.mp h
    cases hok
    have hlt := Nat.mod_lt n h₀
    obtain ⟨hcounts, hsum⟩ := enabledCounts_eq (Nat.div_pos h₁ h₀) heach
    rw [hsum, hcounts, List.sum_append, List.sum_replicate_nat, List.sum_replicate_nat,
      Nat.min_eq_left hlt.le, Nat.mul_add, Nat.mul_one, Nat.add_right_comm, ← Nat.add_mul,
      Nat.add_sub_cancel' hlt.le]
    exact Nat.div_add_mod n (enabledCount displays)
  · rw [he] at h
    cases h

theorem launchClient_ok {config : Configuration} {ans : Answers} {cmdline : String} {launched : Bool}
    (h : launchClient config ans cmdline = .ok launched) :
    (launched = true ↔ cmdline ≠ "") ∧ (launched = true → config.allowClientExec = true) := by
  unfold launchClient at h
  split at h
  · rename_i hempty
    cases h
    simp [hempty]
  · rename_i hcmd
    split at h
    · cases h
    · rename_i hallow
      split at h
      · cases h
        exact ⟨by simp [hcmd], fun _ => by simpa using hallow⟩
      · cases h

theorem launchClient_error {config : Configuration} {ans : Answers} {cmdline : String}
    {reason : ServerGoodbyeReason} (h : launchClient config ans cmdline = .error reason) :
    reason ≠ .invalidConfiguration := by
  unfold launchClient at h
  split at h
  · cases h
  · split at h
    · cases h
      decide
    · split at h
      · cases h
      · cases h
        decide

theorem prepareDisplays_error {ans : Answers} {clientDisplays : List Display} {n : Nat}
    {reason : ServerGoodbyeReason}
    (h : prepareDisplays ans clientDisplays n = some (.error reason)) : reason = .internalError := by
  unfold prepareDisplays at h
  split at h
  · cases h
    rfl
  · split at h
    · cases h
    · cases h
      rfl
    · split at h
      · cases h
        rfl
      · cases h

theorem prepareDisplays_ok {ans : Answers} {clientDisplays displays : List Display} {n : Nat}
    {areas : List (List Box2D)} {dc : Proto.DisplayConfiguration}
    (h : prepareDisplays ans clientDisplays n = some (.ok (displays, areas, dc))) :
    (∃ success, ans.setDisplays clientDisplays = .ok success ∧ displays = success.displays) ∧
      partitionDisplays displays n = some (.ok areas) ∧
      displayConfigFromParts 0 displays areas = .ok dc := by
  unfold prepareDisplays at h
  split at h
  · cases h
  · rename_i success hset
    split at h
    · cases h
    · cases h
    · rename_i areas' hpart
      split at h
      · cases h
      · rename_i dc' hdc
        cases h
        exact ⟨⟨success, hset, rfl⟩, hpart, hdc⟩

/-- **The preparation never panics.** -/
theorem prepareDisplays_isSome (ans : Answers) (clientDisplays : List Display) (n : Nat) :
    (prepareDisplays ans clientDisplays n).isSome = true := by
  unfold prepareDisplays
  split
  · rfl
  · rename_i success _
    rcases partitionDisplays_spec success.displays n with ⟨-, -, areas, ha, -⟩ | ⟨-, e, he⟩
    · simp only [ha]
      split <;> rfl
    · simp only [he]
      rfl

/-- What a plan says, given the request and the answers it was made from. -/
structure Plan.Fits (plan : Plan) (config : Configuration) (ans : Answers) (ci : Proto.ClientInit)
    (launched : Bool) : Prop where
  decoders : 1 ≤ ci.maxDecoderCount
  areas : partitionDisplays plan.displays ci.maxDecoderCount = some (.ok plan.encoderAreas)
  wire : displayConfigFromParts 0 plan.displays plan.encoderAreas = .ok plan.displayConfiguration
  encoders : plan.maxEncoderCount = ci.maxDecoderCount
  responses : plan.tunnelResponses = (generateResponses ans.listen ci.tunnelRequests).1
  tunnels : plan.tunnels = (generateResponses ans.listen ci.tunnelRequests).2
  launched_iff : launched = true ↔ ci.clientSpecifiedProgramCmdline ≠ ""
  allowed : launched = true → config.allowClientExec = true

/-- **What a prepared session was promised.** -/
theorem prepare_ready {config : Configuration} {ans : Answers} {ci : Proto.ClientInit}
    {launched : Bool} {plan : Plan} (h : prepare config ans ci = .ready launched plan) :
    plan.Fits config ans ci launched := by
  unfold prepare at h
  split at h
  · cases h
  · rename_i hdecoders
    split at h
    · cases h
    · split at h
      · cases h
      · split at h
        · cases h
        · dsimp only at h
          split at h
          · cases h
          · rename_i launched' hlaunch
            split at h
            · cases h
            · cases h
            · rename_i displays areas dc hdisplays
              obtain ⟨-, hpart, hdc⟩ := prepareDisplays_ok hdisplays
              obtain ⟨hcmd, hallow⟩ := launchClient_ok hlaunch
              split at h
              · cases h
                exact ⟨by omega, hpart, hdc, rfl, rfl, rfl, hcmd, hallow⟩
              · cases h

/-- A client's program runs only when it was asked for and the server allows it, and then it runs
whatever becomes of the session. -/
theorem prepare_launched {config : Configuration} {ans : Answers} {ci : Proto.ClientInit}
    (h : (∃ reason, prepare config ans ci = .refused true reason) ∨
      prepare config ans ci = .failed true ∨ ∃ plan, prepare config ans ci = .ready true plan) :
    ci.clientSpecifiedProgramCmdline ≠ "" ∧ config.allowClientExec = true := by
  have hlaunch : launchClient config ans ci.clientSpecifiedProgramCmdline = .ok true := by
    unfold prepare at h
    split at h
    · simp at h
    · split at h
      · simp at h
      · split at h
        · simp at h
        · split at h
          · simp at h
          · dsimp only at h
            split at h
            · simp at h
            · rename_i launched hlaunch
              rw [hlaunch]
              split at h
              · simp at h
              · simpa using h
              · split at h
                · simpa using h
                · simpa using h
  obtain ⟨hcmd, hallow⟩ := launchClient_ok hlaunch
  exact ⟨hcmd.mp rfl, hallow rfl⟩

theorem prepare_not_panicked (config : Configuration) (ans : Answers) (ci : Proto.ClientInit) :
    prepare config ans ci ≠ .panicked := by
  unfold prepare
  split
  · simp
  · split
    · simp
    · split
      · simp
      · split
        · simp
        · dsimp only
          split
          · simp
          · split
            · rename_i clientDisplays _ _ _ _ _ hnone
              have hsome := prepareDisplays_isSome ans clientDisplays ci.maxDecoderCount
              rw [hnone] at hsome
              cases hsome
            · simp
            · split <;> simp

/-! ## The client -/

/-- `state::LockState` -/
structure LockState where
  isCapsLocked : Bool
  isNumLocked : Bool
  isScrollLocked : Bool
  deriving DecidableEq, Repr

/-- `config::Configuration` of the client, as far as the handshake depends on it; `decoder_max` is a
`NonZeroUsize`. -/
structure ClientConfiguration where
  authToken : String
  decoderMax : Nat
  programCmdline : Option String
  initialDisplayMode : DisplayMode
  clientBoundTunnelReqs : List PortForwardArg
  serverBoundTunnelReqs : List PortForwardArg
  decoderMax_pos : 0 < decoderMax

/-- A display that is asked for. -/
def requestDisplay (area : Rect) : Proto.DisplayInfo := ⟨some (.fromRect area), true⟩

/-- The displays of `get_info`; there is none to ask for without a monitor. -/
def requestedDisplays (mode : DisplayMode) (initialDisplaysRequest : List Display) :
    Option (List Proto.DisplayInfo) :=
  match mode with
  | .windowed size => some [requestDisplay ⟨Point.zero, size⟩]
  | .multiFullscreen =>
    some ((initialDisplaysRequest.filter fun d => d.isEnabled).map fun d => requestDisplay d.area)
  | .singleFullscreen =>
    -- `.expect("no monitors")`
    initialDisplaysRequest.head?.map fun d => [requestDisplay ⟨Point.zero, d.area.size⟩]

/-- `Client::requested_tunnels` -/
def ClientConfiguration.requestedTunnels (c : ClientConfiguration) :
    Std.ExtTreeMap Nat Proto.Description :=
  PortForwardArg.intoTunnelRequests c.clientBoundTunnelReqs c.serverBoundTunnelReqs

/-- `Client::get_init` -/
def getInit (c : ClientConfiguration) (lockState : LockState)
    (initialDisplaysRequest : List Display) : Option Proto.ClientInit :=
  (requestedDisplays c.initialDisplayMode initialDisplaysRequest).map fun displays =>
    { authToken := c.authToken
      clientInfo := some displays
      clientCaps := some [Codec.raw.toInt, Codec.zlib.toInt, Codec.jpegxl.toInt]
      -- `as u32`
      maxDecoderCount := c.decoderMax % 2 ^ 32
      clientSpecifiedProgramCmdline := c.programCmdline.getD ""
      mbpsMax := 0
      isCapsLocked := lockState.isCapsLocked
      isNumLocked := lockState.isNumLocked
      isScrollLocked := lockState.isScrollLocked
      tunnelRequests := c.requestedTunnels }

/-- `ConnectionParameters` -/
structure ConnectionParameters where
  clientId : Nat
  serverName : String
  displayConfig : DisplayConfiguration
  allocatedTunnels : Std.ExtTreeMap Nat Proto.Response

inductive ConnectionParametersError where
  | missingDisplayConfiguration
  | invalidDisplayConfiguration (e : ConvertError)
  deriving DecidableEq, Repr

/-- `TryFrom<ServerInit> for ConnectionParameters` -/
def ConnectionParameters.tryFrom (serverInit : Proto.ServerInit) :
    Except ConnectionParametersError ConnectionParameters :=
  match serverInit.displayConfiguration with
  | none => .error .missingDisplayConfiguration
  | some dc =>
    match DisplayConfiguration.tryFrom dc with
    | .error e => .error (.invalidDisplayConfiguration e)
    | .ok displayConfig =>
      .ok ⟨serverInit.clientId, serverInit.serverName, displayConfig, serverInit.tunnelResponses⟩

/-- `ConnectionError`, as far as the answer of the server decides it. -/
inductive ConnectionError where
  | receivedServerGoodbye (reason : ServerGoodbyeReason)
  | connectionParameters (e : ConnectionParametersError)
  | allocatedDecoders (encoderCount decoderMax : Nat)
  deriving DecidableEq, Repr

/-- `Client::connect`, from the answer of the server on. -/
def connect (decoderMax : Nat) : ServerMessage → Except ConnectionError ConnectionParameters
  | .serverGoodbye reason => .error (.receivedServerGoodbye reason)
  | .serverInit serverInit =>
    match ConnectionParameters.tryFrom serverInit with
    | .error e => .error (.connectionParameters e)
    | .ok p =>
      if p.displayConfig.encoderCount > decoderMax then
        .error (.allocatedDecoders p.displayConfig.encoderCount decoderMax)
      else .ok p

/-! ## Both ends -/

/-- **The client accepts what the server offers it.**  A client that is ready for the decoders it
asked for reads the displays of the plan in order, each with the areas of its encoders as rectangles,
and finds as many areas as it asked for. -/
theorem connect_of_ready {config : Configuration} {ans : Answers} {ci : Proto.ClientInit}
    {launched : Bool} {plan : Plan} (h : plan.Fits config ans ci launched) {decoderMax : Nat}
    (hmax : ci.maxDecoderCount ≤ decoderMax) (clientId : Nat) (serverName : String) :
    ∃ p, connect decoderMax (.serverInit (plan.serverInit clientId serverName)) = .ok p ∧
      p.clientId = clientId ∧ p.displayConfig.id = 0 ∧
      p.displayConfig.displayDecoderInfos.map DisplayDecoderInfo.display = plan.displays ∧
      p.displayConfig.displayDecoderInfos.map DisplayDecoderInfo.decoderAreas =
        plan.encoderAreas.map (fun bs => bs.map boxToRect) ∧
      p.displayConfig.encoderCount = ci.maxDecoderCount ∧
      p.allocatedTunnels = plan.tunnelResponses := by
  obtain ⟨wire, dc, hwire, hdc, hid, hdisplays, hareas⟩ :=
    (displayConfig_survives_wire 0 plan.displays).1 _ _ h.areas
  rw [h.wire] at hwire
  cases hwire
  have hcount : dc.encoderCount = ci.maxDecoderCount := by
    calc dc.encoderCount
        = ((dc.displayDecoderInfos.map DisplayDecoderInfo.decoderAreas).map List.length).sum := by
          rw [List.map_map]
          rfl
      _ = (plan.encoderAreas.map List.length).sum := by
          rw [hareas, List.map_map]
          congr 1
          apply List.map_congr_left
          intro bs _
          exact List.length_map _
      _ = ci.maxDecoderCount := sum_length_partitionDisplays h.areas
  refine ⟨⟨clientId, serverName, dc, plan.tunnelResponses⟩, ?_, rfl, hid, hdisplays, hareas, hcount,
    rfl⟩
  simp only [connect, ConnectionParameters.tryFrom, Plan.serverInit, hdc, hcount]
  rw [if_neg (by omega)]

/-- What a client asks for converts. -/
theorem mapM_requestDisplay (areas : List Rect) :
    (areas.map requestDisplay).mapM Display.tryFrom =
      .ok (areas.map fun area => (⟨area, true⟩ : Display)) := by
  rw [List.mapM_map]
  apply MapM.mapM_eq_pure_map
  intro area _
  rfl

theorem requestedDisplays_eq {mode : DisplayMode} {request : List Display}
    {displays : List Proto.DisplayInfo} (h : requestedDisplays mode request = some displays) :
    ∃ areas : List Rect, displays = areas.map requestDisplay := by
  cases mode with
  | windowed size =>
    cases h
    exact ⟨[_], rfl⟩
  | multiFullscreen =>
    cases h
    exact ⟨(request.filter fun d => d.isEnabled).map Display.area, by rw [List.map_map]; rfl⟩
  | singleFullscreen =>
    obtain ⟨d, -, rfl⟩ := Option.map_eq_some_iff.mp h
    exact ⟨[_], rfl⟩

/-- **How the server takes the request of a client** of this repository. -/
theorem prepare_getInit {c : ClientConfiguration} {lockState : LockState} {request : List Display}
    {ci : Proto.ClientInit} (h : getInit c lockState request = some ci) (config : Configuration)
    (ans : Answers) :
    (prepare config ans ci = .refused false .invalidConfiguration ↔ c.decoderMax % 2 ^ 32 = 0) ∧
      ∀ launched plan, prepare config ans ci = .ready launched plan →
        plan.codec = .jpegxl ∧ plan.rlConfig = ⟨config.mbpsMax⟩ := by
  obtain ⟨displays, hdisplays, rfl⟩ := Option.map_eq_some_iff.mp h
  obtain ⟨areas, rfl⟩ := requestedDisplays_eq hdisplays
  have hmbps : usizeTryFrom 0 = some 0 := rfl
  simp only [prepare, hmbps, mapM_requestDisplay]
  by_cases hzero : c.decoderMax % 2 ^ 32 = 0
  · rw [if_pos (by omega)]
    exact ⟨⟨fun _ => hzero, fun _ => rfl⟩, fun _ _ heq => by cases heq⟩
  · rw [if_neg (by omega)]
    refine ⟨⟨fun heq => ?_, fun heq => absurd heq hzero⟩, fun launched plan heq => ?_⟩
    · split at heq
      · rename_i reason hlaunch
        cases heq
        exact absurd rfl (launchClient_error hlaunch)
      · split at heq
        · cases heq
        · rename_i reason hdisplays
          cases heq
          cases prepareDisplays_error hdisplays
        · split at heq <;> cases heq
    · split at heq
      · cases heq
      · split at heq
        · cases heq
        · cases heq
        · split at heq
          · cases heq
            have hcodec : chooseCodec (some [Codec.raw.toInt, Codec.zlib.toInt,
              Codec.jpegxl.toInt]) = .jpegxl := by decide
            refine ⟨hcodec, ?_⟩
            cases config.mbpsMax <;> rfl
          · cases heq

/-- A client that is ready for `2 ^ 32` decoders. -/
def wideClient : ClientConfiguration :=
  ⟨"", 2 ^ 32, none, .windowed ⟨8, 6⟩, [], [], by decide⟩

/-- It asks for none, and is refused. -/
theorem prepare_getInit_wraps :
    ∃ ci, getInit wideClient ⟨false, false, false⟩ [] = some ci ∧
      prepare ⟨"", false, none⟩ ⟨fun _ _ _ => .error "", fun _ => false,
        fun displays => .ok ⟨false, displays⟩, fun _ _ _ => true⟩ ci =
          .refused false .invalidConfiguration := by
  obtain ⟨ci, hci⟩ : ∃ ci, getInit wideClient ⟨false, false, false⟩ [] = some ci := ⟨_, rfl⟩
  exact ⟨ci, hci, (prepare_getInit hci _ _).1.mpr (by decide)⟩

end Handshake

end ApertureC
