import AcceleratorFabric.Api
import AcceleratorFabric.DevicePlugin
import AcceleratorFabric.GoMap
import AcceleratorFabric.GoScan
import AcceleratorFabric.Notification

/-! # The device plugin as a server

The plugin keeps a table of devices.  `SetHealth` changes it under a lock and notifies afterwards;
`ListAndWatch` sends the kubelet the list of the devices again and again.  `Allocate` answers with
the environment of the containers.

* `Plugin.watch_delivers`: whatever the order of the steps, as soon as nothing is on its way, the
  list at the kubelet has every device with the health that was set last.
* `Plugin.second_stream_starves`: that holds for one stream at a time only; of two streams one can
  take the notification from the other.
* `Plugin.allocate_spec`: `Allocate` refuses for the first container with an unusable device,
  and names the smallest one.
* `Plugin.preferred_allocated`: what `GetPreferredAllocation` chose from healthy devices is
  allocated, and the containers read it from their environment. -/

namespace AcceleratorFabric.DevicePlugin

open GoText GoMap GoScan Notification Runs

inductive DeviceHealth where
  | healthy
  | unhealthy
  | other (text : String)
deriving DecidableEq, Repr

def DeviceHealth.text : DeviceHealth → String
  | healthy => "Healthy"
  | unhealthy => "Unhealthy"
  | other text => text

/-- The values that `SetHealth` takes. -/
def DeviceHealth.Supported (health : DeviceHealth) : Prop :=
  health = .healthy ∨ health = .unhealthy

instance (health : DeviceHealth) : Decidable health.Supported :=
  inferInstanceAs (Decidable (_ ∨ _))

/-- `pluginapi.Device`; the topology is given by the IDs of its NUMA nodes. -/
structure PluginDevice where
  id : String
  health : DeviceHealth
  topology : Option (List ℤ)
deriving DecidableEq, Repr

structure Config where
  resourceName : String
  count : ℤ
  devicesPerNUMA : ℤ
deriving DecidableEq, Repr

inductive ConfigError where
  | resourceName (name : String)
  | count
  | devicesPerNUMA
deriving DecidableEq, Repr

def ConfigError.message [IsPrint] : ConfigError → String
  | resourceName name => "resourceName " ++ quote name ++
      " is not a qualified extended resource name"
  | count => "count must be positive"
  | devicesPerNUMA => "devicesPerNUMA must be positive"

/-- The plugin's table has every device under its ID. -/
structure Plugin where
  config : Config
  devices : GoMap String PluginDevice
  keyed : ∀ id device, devices.lookup id = some device → device.id = id

/-! ### The table -/

/-- The resource name in lower case with dashes, the beginning of every device ID. -/
def idStem (resourceName : String) : String :=
  String.ofList ((resourceName.toList.map Char.toLower).map fun c =>
    if c = '/' ∨ c = '.' ∨ c = '_' then '-' else c)

def deviceID (resourceName : String) (index : ℕ) : String :=
  idStem resourceName ++ "-" ++ formatInt index

def newDevice (config : Config) (index : ℕ) : PluginDevice where
  id := deviceID config.resourceName index
  health := .healthy
  topology := some [index / config.devicesPerNUMA]

/-- The loop of `New` over the indexes. -/
def newDevices (config : Config) : GoMap String PluginDevice :=
  literal ((List.range config.count.toNat).map fun index =>
    (deviceID config.resourceName index, newDevice config index))

theorem deviceID_injective {resourceName : String} {i j : ℕ}
    (h : deviceID resourceName i = deviceID resourceName j) : i = j := by
  unfold deviceID at h
  have hdigits : formatInt i = formatInt j := by simpa using h
  exact_mod_cast formatInt_injective hdigits

theorem lookup_newDevices {config : Config} {id : String} {device : PluginDevice} :
    (newDevices config).lookup id = some device ↔
      ∃ index < config.count.toNat, device = newDevice config index ∧ device.id = id := by
  have hnodup : (((List.range config.count.toNat).map fun index =>
      (deviceID config.resourceName index, newDevice config index)).map Prod.fst).Nodup := by
    rw [List.map_map]
    exact List.nodup_range.map fun i j h => deviceID_injective h
  rw [newDevices, lookup_literal_eq_some_iff hnodup, List.mem_map]
  constructor
  · rintro ⟨index, hindex, heq⟩
    cases heq
    exact ⟨index, List.mem_range.mp hindex, rfl, rfl⟩
  · rintro ⟨index, hindex, rfl, rfl⟩
    exact ⟨index, List.mem_range.mpr hindex, rfl⟩

/-- `New`, without the socket. -/
def new [Kube] (config : Config) : Except ConfigError Plugin :=
  if !Kube.isQualifiedName config.resourceName || !config.resourceName.toList.contains '/' then
    .error (.resourceName config.resourceName)
  else if config.count < 1 then .error .count
  else if config.devicesPerNUMA < 1 then .error .devicesPerNUMA
  else .ok ⟨config, newDevices config, fun _ _ h => by
    obtain ⟨_, _, _, hid⟩ := lookup_newDevices.mp h
    exact hid⟩

inductive HealthError where
  | unsupported (health : DeviceHealth)
  | unknown (id : String)
deriving DecidableEq, Repr

def HealthError.message [IsPrint] : HealthError → String
  | unsupported health => "unsupported health " ++ quote health.text
  | unknown id => "unknown synthetic device " ++ quote id

/-- The device with the health, if it has the ID. -/
def PluginDevice.marked (device : PluginDevice) (id : String) (health : DeviceHealth) :
    PluginDevice :=
  if device.id = id then { device with health := health } else device

theorem PluginDevice.id_marked (device : PluginDevice) (id : String) (health : DeviceHealth) :
    (device.marked id health).id = device.id := by
  unfold marked
  split_ifs <;> rfl

/-- A table whose device of the ID gets the health. -/
def markIn (devices : GoMap String PluginDevice) (id : String) (health : DeviceHealth) :
    GoMap String PluginDevice :=
  insertSome devices id ((devices.lookup id).map fun device => { device with health := health })

theorem lookup_markIn {devices : GoMap String PluginDevice}
    (hkeyed : ∀ id device, devices.lookup id = some device → device.id = id)
    (id other : String) (health : DeviceHealth) :
    (markIn devices id health).lookup other =
      (devices.lookup other).map fun device => device.marked id health := by
  rw [markIn, lookup_insertSome]
  cases hother : devices.lookup other with
  | none =>
      split_ifs with heq
      · rw [← heq, hother]
        rfl
      · rfl
  | some device =>
      have hid := hkeyed other device hother
      split_ifs with heq
      · rw [← heq, hother]
        simp [PluginDevice.marked, hid]
      · simp [PluginDevice.marked, hid, heq]

namespace Plugin

def mark (p : Plugin) (id : String) (health : DeviceHealth) : Plugin where
  config := p.config
  devices := markIn p.devices id health
  keyed other device h := by
    rw [lookup_markIn p.keyed] at h
    obtain ⟨device', hdevice, rfl⟩ := Option.map_eq_some_iff.mp h
    rw [PluginDevice.id_marked]
    exact p.keyed other device' hdevice

/-- `SetHealth` up to the release of the lock: the changed table, or none if the device has the
health already. -/
def setHealth (p : Plugin) (id : String) (health : DeviceHealth) :
    Except HealthError (Option Plugin) :=
  if ¬ health.Supported then .error (.unsupported health)
  else match p.devices.lookup id with
    | none => .error (.unknown id)
    | some device => if device.health = health then .ok none else .ok (some (p.mark id health))

/-- The devices in the order of their IDs. -/
def deviceList (p : Plugin) : List PluginDevice :=
  (orderedKeys p.devices).filterMap p.devices.lookup

/-! ### Health over time -/

/-- The change of the table that a call of `SetHealth` makes. -/
def changed (p : Plugin) (call : String × DeviceHealth) : Option Plugin :=
  match p.setHealth call.1 call.2 with
  | .ok q => q
  | .error _ => none

end Plugin

/-- Calls of `SetHealth`, their notifications, and the streams of `ListAndWatch`. -/
abbrev WatchEvent := Event (String × DeviceHealth) ℕ

abbrev Watch := State Plugin (List PluginDevice) ℕ

def watchStep : Watch → WatchEvent → Watch := Notification.step Plugin.deviceList Plugin.changed

/-- The health of every ID after a call. -/
def healthAfter (health : String → DeviceHealth) : WatchEvent → String → DeviceHealth
  | .change (id, new) => if new.Supported then Function.update health id new else health
  | _ => health

/-- The health that was set last for every ID, or healthy. -/
def lastHealth (events : List WatchEvent) : String → DeviceHealth :=
  events.foldl healthAfter fun _ => .healthy

/-- The device of an index with the health that its ID has. -/
def deviceWith (config : Config) (health : String → DeviceHealth) (index : ℕ) : PluginDevice :=
  { newDevice config index with health := health (deviceID config.resourceName index) }

/-- A list in the order of the IDs that has every device of the configuration with its health. -/
structure Reports (config : Config) (health : String → DeviceHealth) (l : List PluginDevice) :
    Prop where
  sorted : (l.map (·.id)).Pairwise (· < ·)
  mem_iff : ∀ device, device ∈ l ↔
    ∃ index < config.count.toNat, device = deviceWith config health index

namespace Plugin

/-- The plugin has the devices of the configuration, with the given health. -/
structure Has (config : Config) (health : String → DeviceHealth) (p : Plugin) : Prop where
  config_eq : p.config = config
  lookup_iff : ∀ id device, p.devices.lookup id = some device ↔
    (∃ index < config.count.toNat, device = deviceWith config health index) ∧ device.id = id

variable {config : Config} {health : String → DeviceHealth} {p : Plugin}

theorem has_new [Kube] (h : new config = .ok p) : p.Has config fun _ => .healthy := by
  unfold new at h
  split_ifs at h
  cases h
  refine ⟨rfl, fun id device => ?_⟩
  rw [lookup_newDevices]
  constructor
  · rintro ⟨index, hindex, rfl, rfl⟩
    exact ⟨⟨index, hindex, rfl⟩, rfl⟩
  · rintro ⟨⟨index, hindex, rfl⟩, rfl⟩
    exact ⟨index, hindex, rfl, rfl⟩

theorem marked_deviceWith (config : Config) (health : String → DeviceHealth) (index : ℕ)
    (id : String) (new : DeviceHealth) :
    (deviceWith config health index).marked id new =
      deviceWith config (Function.update health id new) index := by
  unfold PluginDevice.marked deviceWith
  by_cases hid : deviceID config.resourceName index = id
  · simp [newDevice, hid]
  · simp [newDevice, hid]

theorem Has.mark (h : p.Has config health) (id : String) (new : DeviceHealth) :
    (p.mark id new).Has config (Function.update health id new) := by
  refine ⟨h.config_eq, fun other device => ?_⟩
  show (markIn p.devices id new).lookup other = some device ↔ _
  rw [lookup_markIn p.keyed, Option.map_eq_some_iff]
  constructor
  · rintro ⟨device', hdevice, rfl⟩
    obtain ⟨⟨index, hindex, rfl⟩, rfl⟩ := (h.lookup_iff other device').mp hdevice
    exact ⟨⟨index, hindex, marked_deviceWith ..⟩, PluginDevice.id_marked ..⟩
  · rintro ⟨⟨index, hindex, rfl⟩, rfl⟩
    exact ⟨deviceWith config health index, (h.lookup_iff _ _).mpr ⟨⟨index, hindex, rfl⟩, rfl⟩,
      marked_deviceWith ..⟩

/-- The health of an ID that no device has does not matter. -/
theorem Has.congr (h : p.Has config health) {health' : String → DeviceHealth}
    (heq : ∀ index < config.count.toNat, health (deviceID config.resourceName index) =
      health' (deviceID config.resourceName index)) : p.Has config health' := by
  refine ⟨h.config_eq, fun id device => ?_⟩
  have hsame : (∃ index < config.count.toNat, device = deviceWith config health index) ↔
      ∃ index < config.count.toNat, device = deviceWith config health' index := by
    refine exists_congr fun index => and_congr_right fun hindex => ?_
    unfold deviceWith
    rw [heq index hindex]
  rw [h.lookup_iff, hsame]

/-- The step lemma for the table. -/
theorem Has.apply (h : p.Has config health) (e : WatchEvent) :
    (e.apply changed p).Has config (healthAfter health e) := by
  cases e with
  | change call =>
      obtain ⟨id, new⟩ := call
      show ((changed p (id, new)).getD p).Has config
        (if new.Supported then Function.update health id new else health)
      unfold changed setHealth
      by_cases hsupported : new.Supported
      · simp only [hsupported, not_true_eq_false, if_false, if_true]
        cases hlookup : p.devices.lookup id with
        | none =>
            refine h.congr fun index hindex => ?_
            have hne : deviceID config.resourceName index ≠ id := by
              rintro rfl
              have hsome := (h.lookup_iff _ _).mpr ⟨⟨index, hindex, rfl⟩, rfl⟩
              rw [show (deviceWith config health index).id =
                deviceID config.resourceName index from rfl, hlookup] at hsome
              cases hsome
            rw [Function.update_of_ne hne]
        | some device =>
            by_cases heq : device.health = new
            · simp only [heq, if_true]
              obtain ⟨⟨index, _, rfl⟩, rfl⟩ := (h.lookup_iff id device).mp hlookup
              rw [Function.update_eq_self_iff.mpr heq.symm]
              exact h
            · simp only [heq, if_false]
              exact h.mark id new
      · simp only [hsupported, not_false_eq_true, if_true, if_false]
        exact h
  | _ => exact h

theorem Has.foldl (h : p.Has config health) (events : List WatchEvent) :
    (events.foldl (Event.apply changed) p).Has config (events.foldl healthAfter health) := by
  induction events generalizing p health with
  | nil => exact h
  | cons e events ih => exact ih (h.apply e)

theorem mem_deviceList {device : PluginDevice} :
    device ∈ p.deviceList ↔ p.devices.lookup device.id = some device := by
  rw [deviceList, List.mem_filterMap]
  constructor
  · rintro ⟨id, _, hdevice⟩
    rw [p.keyed id device hdevice]
    exact hdevice
  · intro hdevice
    exact ⟨device.id, (mem_orderedKeys _ _).mpr (Finmap.mem_of_lookup_eq_some hdevice), hdevice⟩

theorem Has.reports (h : p.Has config health) : Reports config health p.deviceList := by
  have hids : p.deviceList.map (·.id) = orderedKeys p.devices := by
    have hself : ∀ id ∈ orderedKeys p.devices,
        (p.devices.lookup id).map (·.id) = some id := by
      intro id hid
      obtain ⟨device, hdevice⟩ := Finmap.mem_iff.mp ((mem_orderedKeys _ _).mp hid)
      rw [hdevice, Option.map_some, p.keyed id device hdevice]
    rw [deviceList, List.map_filterMap, List.filterMap_congr hself, List.filterMap_some]
  refine ⟨?_, fun device => ?_⟩
  · rw [hids]
    exact pairwise_orderedKeys _
  · rw [mem_deviceList, h.lookup_iff, and_iff_left rfl]

/-- The table after a run of the watch. -/
theorem has_run [Kube] (h : new config = .ok p) (events : List WatchEvent) :
    (run watchStep (State.start p) events).value.Has config (lastHealth events) := by
  have hvalue : (run watchStep (State.start p) events).value =
      events.foldl (Event.apply changed) p := value_run events _
  rw [hvalue]
  exact (has_new h).foldl events

end Plugin

/-- No token is in the channel, and no call of `SetHealth` is about to put one there. -/
def Quiet (s : Watch) : Prop := s.token = false ∧ s.notifiers = 0

instance (s : Watch) : Decidable (Quiet s) := inferInstanceAs (Decidable (_ ∧ _))

/-- **No change of health is lost.**  After any interleaving of `SetHealth` calls with streams that
follow one another, a stream that waits while nothing is on its way has sent every device with the
health that was set last; and a stream that is left to finish sends that list. -/
theorem Plugin.watch_delivers [Kube] (config : Config) (p : Plugin) (hnew : new config = .ok p)
    (events : List WatchEvent) (hone : Along watchStep OneReader (State.start p) events) :
    let s := run watchStep (State.start p) events
    (∀ k l, Quiet s → s.readers.lookup k = some (.waiting l) →
      Reports config (lastHealth events) l) ∧
    ∀ k ∈ s.readers, ∃ l,
      (run watchStep s (settle s.notifiers k)).readers.lookup k = some (.waiting l) ∧
      Reports config (lastHealth events) l := by
  intro s
  have hfresh : Fresh Plugin.deviceList s := fresh_run p events hone
  have hreports := (has_run hnew events).reports
  constructor
  · rintro k l ⟨htoken, hnotifiers⟩ hk
    rcases hfresh.current k _ l hk rfl with rfl | hnotified | hpending
    · exact hreports
    · rw [htoken] at hnotified
      cases hnotified
    · omega
  · intro k hk
    refine ⟨_, ?_, hreports⟩
    have hsettled : run watchStep s (settle s.notifiers k) = _ := hfresh.settle hk
    rw [hsettled]
    exact Finmap.lookup_insert _

/-- Two devices, one on each NUMA node. -/
def twoDevices : Config := ⟨"nvidia.com/gpu", 2, 1⟩

def twoDevicePlugin : Plugin where
  config := twoDevices
  devices := newDevices twoDevices
  keyed _ _ h := by
    obtain ⟨_, _, _, hid⟩ := lookup_newDevices.mp h
    exact hid

theorem new_twoDevices : @new sampleKube twoDevices = .ok twoDevicePlugin := by
  unfold new
  rw [if_neg (by decide +kernel), if_neg (by decide), if_neg (by decide)]
  rfl

/-- A device becomes unhealthy while the list is on its way to the kubelet. -/
def changeWhileSending : List WatchEvent :=
  [.connect 0, .load 0, .change ("nvidia-com-gpu-1", .unhealthy), .send 0 true]

theorem Plugin.watch_delivers_change :
    let : Kube := sampleKube
    let s := run watchStep (State.start twoDevicePlugin) changeWhileSending
    new twoDevices = .ok twoDevicePlugin ∧
      Along watchStep OneReader (State.start twoDevicePlugin) changeWhileSending ∧
      lastHealth changeWhileSending "nvidia-com-gpu-1" = .unhealthy ∧
      ∃ l, (run watchStep s (settle s.notifiers 0)).readers.lookup 0 = some (.waiting l) ∧
        Reports twoDevices (lastHealth changeWhileSending) l := by
  intro kube s
  have hone : Along watchStep OneReader (State.start twoDevicePlugin) changeWhileSending :=
    ⟨rfl, trivial, trivial, trivial, trivial⟩
  refine ⟨new_twoDevices, hone, by decide +kernel, ?_⟩
  refine (Plugin.watch_delivers _ _ new_twoDevices changeWhileSending hone).2 0 ?_
  decide +kernel

/-- A change of the table shows in the list. -/
theorem Plugin.deviceList_ne {p q : Plugin} {call : String × DeviceHealth}
    (h : p.changed call = some q) : p.deviceList ≠ q.deviceList := by
  obtain ⟨id, health⟩ := call
  unfold changed setHealth at h
  by_cases hsupported : health.Supported
  · cases hlookup : p.devices.lookup id with
    | none => simp [hsupported, hlookup] at h
    | some device =>
        by_cases hsame : device.health = health
        · simp [hsupported, hlookup, hsame] at h
        · simp only [hsupported, hlookup, hsame, not_true_eq_false, if_false] at h
          cases h
          intro heq
          have hid := p.keyed id device hlookup
          -- the device as it was is in the old list, and with its new health in the other
          have hmem : device ∈ p.deviceList := mem_deviceList.mpr (by rw [hid, hlookup])
          rw [heq, mem_deviceList, show (p.mark id health).devices = markIn p.devices id health from
            rfl, lookup_markIn p.keyed, hid, hlookup, Option.map_some, Option.some.injEq] at hmem
          have hmarked : (device.marked id health).health = health := by
            simp [PluginDevice.marked, hid]
          rw [hmem] at hmarked
          exact hsame hmarked
  · simp [hsupported] at h

/-- **A second stream takes the change from the first.**  In every state in which nothing is on its
way and two streams wait, every change of health can be followed by steps of the plugin that end
with nothing on its way while the first stream still has the list from before. -/
theorem Plugin.second_stream_starves (s : Watch) (hquiet : Quiet s) (i j : ℕ) (hij : i ≠ j)
    (l : List PluginDevice) (hi : s.readers.lookup i = some (.waiting s.value.deviceList))
    (hj : s.readers.lookup j = some (.waiting l)) (call : String × DeviceHealth) (p : Plugin)
    (hchange : s.value.changed call = some p) :
    ∃ events, (∀ e ∈ events, ∀ other, e = .change other → other = call) ∧
      let s' := run watchStep s events
      Quiet s' ∧ s'.value = p ∧ s'.readers.lookup i = some (.waiting s.value.deviceList) ∧
        s.value.deviceList ≠ s'.value.deviceList := by
  obtain ⟨readers, hrun, hfirst, _⟩ : ∃ readers, run watchStep s
      [.change call, .notify, .receive j, .load j, .send j true] = ⟨p, 0, false, readers⟩ ∧ _ :=
    starve hij hi hj hquiet.2 hchange
  refine ⟨[.change call, .notify, .receive j, .load j, .send j true], ?_, ?_⟩
  · intro e he other hother
    rcases List.mem_cons.mp he with rfl | he
    · exact (Event.change.inj hother).symm
    · rw [hother] at he
      simp at he
  · rw [hrun]
    exact ⟨⟨rfl, rfl⟩, rfl, hfirst, Plugin.deviceList_ne hchange⟩

/-- Two streams that have the first list. -/
def twoStreams : List WatchEvent :=
  [.connect 0, .load 0, .send 0 true, .connect 1, .load 1, .send 1 true]

theorem Plugin.second_stream_starves_two_devices :
    ∃ events, (run watchStep (run watchStep (State.start twoDevicePlugin) twoStreams)
      events).readers.lookup 0 = some (.waiting twoDevicePlugin.deviceList) ∧
      twoDevicePlugin.deviceList ≠ (run watchStep (run watchStep (State.start twoDevicePlugin)
        twoStreams) events).value.deviceList := by
  obtain ⟨p, hp⟩ : ∃ p, twoDevicePlugin.changed ("nvidia-com-gpu-1", .unhealthy) = some p :=
    Option.isSome_iff_exists.mp (by decide +kernel)
  obtain ⟨events, _, _, _, hfirst, hne⟩ := Plugin.second_stream_starves
    (run watchStep (State.start twoDevicePlugin) twoStreams) (by decide +kernel) 0 1 (by decide)
    twoDevicePlugin.deviceList (by decide +kernel) (by decide +kernel) _ p hp
  exact ⟨events, hfirst, hne⟩

/-! ### Allocation -/

inductive AllocateError where
  | unknown (id : String)
  | unhealthy (id : String)
deriving DecidableEq, Repr

/-- The codes of gRPC that the plugin uses. -/
inductive Code where
  | invalidArgument
  | unavailable
deriving DecidableEq, Repr

def AllocateError.code : AllocateError → Code
  | unknown _ => .invalidArgument
  | unhealthy _ => .unavailable

def AllocateError.message [IsPrint] : AllocateError → String
  | unknown id => "unknown synthetic device " ++ quote id
  | unhealthy id => "synthetic device " ++ quote id ++ " is unhealthy"

def idsVariable : String := "SYNTHETIC_ACCELERATOR_IDS"

def resourceVariable : String := "SYNTHETIC_ACCELERATOR_RESOURCE"

namespace Plugin

/-- Why a device cannot be allocated. -/
def refusal (p : Plugin) (id : String) : Option AllocateError :=
  match p.devices.lookup id with
  | none => some (.unknown id)
  | some device => if device.health ≠ .healthy then some (.unhealthy id) else none

/-- The environment of a container with the devices. -/
def environment (p : Plugin) (ids : List String) : GoMap String String :=
  literal [(idsVariable, ",".intercalate ids), (resourceVariable, p.config.resourceName)]

/-- `Allocate`: the responses so far are returned only if no container is refused. -/
def allocate (p : Plugin) : List (GoMap String String) → List (List String) →
    Except AllocateError (List (GoMap String String))
  | responses, [] => .ok responses
  | responses, request :: requests =>
      match (sortStrings request).findSome? p.refusal with
      | some e => .error e
      | none => p.allocate (responses ++ [p.environment (sortStrings request)]) requests

/-- A device of the plugin with this ID is healthy. -/
def HasHealthy (p : Plugin) (id : String) : Prop :=
  ∃ device, p.devices.lookup id = some device ∧ device.health = .healthy

/-- All devices of the request are healthy devices of the plugin. -/
def Serves (p : Plugin) (request : List String) : Prop := ∀ id ∈ request, p.HasHealthy id

/-- The plugin has no device with this ID, or one that is not healthy. -/
inductive Lacks (p : Plugin) (id : String) : AllocateError → Prop where
  | unknown (hlookup : p.devices.lookup id = none) : Lacks p id (.unknown id)
  | unhealthy (device : PluginDevice) (hlookup : p.devices.lookup id = some device)
      (hhealth : device.health ≠ .healthy) : Lacks p id (.unhealthy id)

variable {p : Plugin}

theorem refusal_eq_none_iff {id : String} : p.refusal id = none ↔ p.HasHealthy id := by
  unfold refusal HasHealthy
  cases hlookup : p.devices.lookup id with
  | none => simp
  | some device => simp

theorem refusal_eq_some_iff {id : String} {e : AllocateError} :
    p.refusal id = some e ↔ p.Lacks id e := by
  unfold refusal
  constructor
  · intro h
    cases hlookup : p.devices.lookup id with
    | none =>
        rw [hlookup] at h
        cases h
        exact .unknown hlookup
    | some device =>
        rw [hlookup] at h
        simp only [ne_eq, ite_not] at h
        split_ifs at h with hhealth
        cases h
        exact .unhealthy device hlookup hhealth
  · rintro (hlookup | ⟨device, hlookup, hhealth⟩)
    · rw [hlookup]
    · simp [hlookup, hhealth]

theorem serves_iff_findSome? {request : List String} :
    p.Serves request ↔ (sortStrings request).findSome? p.refusal = none := by
  rw [List.findSome?_eq_none_iff]
  unfold Serves sortStrings
  simp only [List.mem_insertionSort, refusal_eq_none_iff]

theorem allocate_eq_ok_iff {responses : List (GoMap String String)} :
    ∀ {requests : List (List String)} {before : List (GoMap String String)},
      p.allocate before requests = .ok responses ↔
        (∀ request ∈ requests, p.Serves request) ∧
          responses = before ++ requests.map fun request => p.environment (sortStrings request)
  | [], before => by simp [allocate, eq_comm]
  | request :: requests, before => by
      unfold allocate
      cases hrefusal : (sortStrings request).findSome? p.refusal with
      | some e =>
          refine iff_of_false (fun h => by cases h) fun h => ?_
          have hserves := serves_iff_findSome?.mp (h.1 request List.mem_cons_self)
          rw [hrefusal] at hserves
          cases hserves
      | none =>
          have hserves := serves_iff_findSome?.mpr hrefusal
          simp only [allocate_eq_ok_iff, List.forall_mem_cons, hserves, true_and, List.map_cons,
            List.append_assoc, List.singleton_append]

/-- The smallest device of the request that cannot be allocated. -/
structure FirstRefused (p : Plugin) (request : List String) (id : String) (e : AllocateError) :
    Prop where
  mem : id ∈ request
  lacks : p.Lacks id e
  smallest : ∀ other ∈ request, other < id → p.HasHealthy other

theorem Lacks.not_hasHealthy {id : String} {e : AllocateError} (h : p.Lacks id e) :
    ¬ p.HasHealthy id := by
  intro hhealthy
  have hnone := refusal_eq_none_iff.mpr hhealthy
  rw [refusal_eq_some_iff.mpr h] at hnone
  cases hnone

theorem findSome?_eq_some_iff {request : List String} {e : AllocateError} :
    (sortStrings request).findSome? p.refusal = some e ↔ ∃ id, p.FirstRefused request id e := by
  have hmem : ∀ {a}, a ∈ sortStrings request ↔ a ∈ request := List.mem_insertionSort _
  have hsorted : (sortStrings request).Pairwise (· ≤ ·) := List.pairwise_insertionSort _ _
  have hfirst : ∀ {e'}, (sortStrings request).findSome? p.refusal = some e' →
      ∃ id, p.FirstRefused request id e' := by
    intro e' h
    obtain ⟨before, id, after, heq, hid, hbefore⟩ := List.findSome?_eq_some_iff.mp h
    refine ⟨id, hmem.mp (by rw [heq]; simp), refusal_eq_some_iff.mp hid, fun other hother hlt => ?_⟩
    rw [← hmem, heq, List.mem_append, List.mem_cons] at hother
    rw [heq, List.pairwise_append, List.pairwise_cons] at hsorted
    rcases hother with hother | rfl | hother
    · exact refusal_eq_none_iff.mp (hbefore other hother)
    · exact absurd hlt (lt_irrefl _)
    · exact absurd (hsorted.2.1.1 other hother) (not_le.mpr hlt)
  refine ⟨hfirst, ?_⟩
  rintro ⟨id, h⟩
  cases hsome : (sortStrings request).findSome? p.refusal with
  | none => exact absurd (serves_iff_findSome?.mpr hsome id h.mem) h.lacks.not_hasHealthy
  | some e' =>
      -- two smallest devices are the same one
      obtain ⟨id', h'⟩ := hfirst hsome
      rcases lt_trichotomy id id' with hlt | rfl | hlt
      · exact absurd (h'.smallest id h.mem hlt) h.lacks.not_hasHealthy
      · exact (refusal_eq_some_iff.mpr h'.lacks).symm.trans (refusal_eq_some_iff.mpr h.lacks)
      · exact absurd (h.smallest id' h'.mem hlt) h'.lacks.not_hasHealthy

theorem allocate_eq_error_iff {e : AllocateError} :
    ∀ {requests : List (List String)} {responses : List (GoMap String String)},
      p.allocate responses requests = .error e ↔
        ∃ before request after id, requests = before ++ request :: after ∧
          (∀ r ∈ before, p.Serves r) ∧ p.FirstRefused request id e
  | [], responses => by simp [allocate]
  | request :: requests, responses => by
      unfold allocate
      cases hrefusal : (sortStrings request).findSome? p.refusal with
      | some e' =>
          constructor
          · rintro ⟨⟩
            obtain ⟨id, hid⟩ := findSome?_eq_some_iff.mp hrefusal
            exact ⟨[], request, requests, id, rfl, by simp, hid⟩
          · rintro ⟨before, request', after, id, heq, hbefore, hid⟩
            cases before with
            | nil =>
                cases heq
                rw [findSome?_eq_some_iff.mpr ⟨id, hid⟩] at hrefusal
                cases hrefusal
                rfl
            | cons first before =>
                cases heq
                rw [serves_iff_findSome?.mp (hbefore _ List.mem_cons_self)] at hrefusal
                cases hrefusal
      | none =>
          have hserves := serves_iff_findSome?.mpr hrefusal
          simp only [allocate_eq_error_iff]
          constructor
          · rintro ⟨before, request', after, id, rfl, hbefore, hid⟩
            exact ⟨request :: before, request', after, id, rfl,
              List.forall_mem_cons.mpr ⟨hserves, hbefore⟩, hid⟩
          · rintro ⟨before, request', after, id, heq, hbefore, hid⟩
            cases before with
            | nil =>
                cases heq
                rw [findSome?_eq_some_iff.mpr ⟨id, hid⟩] at hrefusal
                cases hrefusal
            | cons first before =>
                cases heq
                exact ⟨before, request', after, id, rfl,
                  fun r hr => hbefore r (List.mem_cons_of_mem _ hr), hid⟩

end Plugin

/-- **`Allocate` in full.**  It succeeds exactly if all devices of all containers are healthy
devices of the plugin, and every container then gets its devices in order.  Otherwise it refuses
for the first container that has another device, and names the smallest such device. -/
theorem Plugin.allocate_spec (p : Plugin) (requests : List (List String)) :
    (∀ responses, p.allocate [] requests = .ok responses ↔
      (∀ request ∈ requests, p.Serves request) ∧
        responses = requests.map fun request => p.environment (sortStrings request)) ∧
    ∀ e, p.allocate [] requests = .error e ↔
      ∃ before request after id, requests = before ++ request :: after ∧
        (∀ r ∈ before, p.Serves r) ∧ p.FirstRefused request id e :=
  ⟨fun _ => allocate_eq_ok_iff, fun _ => allocate_eq_error_iff⟩

/-! ### From the list to the workload -/

/-- A qualified name has no comma. -/
class PlainNames [Kube] : Prop where
  no_comma : ∀ name, Kube.isQualifiedName name = true → ',' ∉ name.toList

theorem eq_comma_of_toLower {c : Char} (h : c.toLower = ',') : c = ',' := by
  unfold Char.toLower at h
  split at h
  · next hupper =>
      have hsum : c.val + 32 = 44 := congrArg Char.val h
      grind
  · exact h

theorem comma_not_mem_deviceID {resourceName : String} (h : ',' ∉ resourceName.toList)
    (index : ℕ) : ',' ∉ (deviceID resourceName index).toList := by
  have hdigits : ',' ∉ (formatInt index).toList := fun hmem => by
    rw [formatInt, String.toList_ofList, if_neg (by omega)] at hmem
    have := Nat.isDigit_of_mem_toDigits (by decide) (by decide) hmem
    exact absurd this (by decide)
  rw [deviceID, String.toList_append, String.toList_append, idStem, String.toList_ofList]
  simp only [List.mem_append, not_or]
  refine ⟨⟨?_, by decide⟩, hdigits⟩
  intro hmem
  obtain ⟨c, hc, hcomma⟩ := List.mem_map.mp hmem
  split_ifs at hcomma
  · exact absurd hcomma (by decide)
  · obtain ⟨d, hd, rfl⟩ := List.mem_map.mp hc
    exact h (eq_comma_of_toLower hcomma ▸ hd)

theorem deviceID_ne_empty (resourceName : String) (index : ℕ) : deviceID resourceName index ≠ "" := by
  intro h
  have hlist := congrArg String.toList h
  simp [deviceID] at hlist

/-- `synthetic-workload`: what a container prints, or that the environment is missing. -/
def syntheticWorkload (environment : GoMap String String) : Except String String :=
  let resource := (environment.lookup resourceVariable).getD ""
  let ids := (environment.lookup idsVariable).getD ""
  if resource = "" ∨ ids = "" then
    .error "synthetic accelerator allocation environment is missing"
  else .ok ("resource=" ++ resource ++ " ids=" ++ ids ++ "\n")

/-- The container finds the devices of its request in its environment. -/
structure Reads (config : Config) (request : ContainerPreferredAllocationRequest)
    (environment : GoMap String String) : Prop where
  resource : environment.lookup resourceVariable = some config.resourceName
  ids : ∃ text selected, environment.lookup idsVariable = some text ∧
    MeetsRequest request selected ∧ split ',' text = sortStrings selected
  runs : (syntheticWorkload environment).isOk = true

namespace Plugin

variable {p : Plugin} {config : Config} {health : String → DeviceHealth}

/-- A healthy device in the list can be allocated. -/
theorem Has.hasHealthy (h : p.Has config health) {device : PluginDevice}
    (hdevice : device ∈ p.deviceList) (hhealthy : device.health = .healthy) :
    p.HasHealthy device.id :=
  ⟨device, (h.lookup_iff device.id device).mpr ⟨(h.reports.mem_iff device).mp hdevice, rfl⟩,
    hhealthy⟩

theorem Has.eq_deviceID (h : p.Has config health) {id : String} (hid : p.HasHealthy id) :
    ∃ index, id = deviceID config.resourceName index := by
  obtain ⟨device, hlookup, _⟩ := hid
  obtain ⟨⟨index, _, rfl⟩, rfl⟩ := (h.lookup_iff id device).mp hlookup
  exact ⟨index, rfl⟩

theorem lookup_environment (p : Plugin) (ids : List String) :
    (p.environment ids).lookup idsVariable = some (",".intercalate ids) ∧
      (p.environment ids).lookup resourceVariable = some p.config.resourceName := by
  have hnames : idsVariable ≠ resourceVariable := by decide
  constructor
  · simp [environment, literal, hnames]
  · simp [environment, literal]

/-- The environment of an answer to a request for one device at least. -/
theorem Has.reads (h : p.Has config health) (hresource : config.resourceName ≠ "")
    (hname : ',' ∉ config.resourceName.toList) {request : ContainerPreferredAllocationRequest}
    {ids : List String} (hmeets : MeetsRequest request ids) (hsize : 1 ≤ request.allocationSize)
    (hserves : p.Serves ids) : Reads config request (p.environment (sortStrings ids)) := by
  obtain ⟨hids, hresources⟩ := p.lookup_environment (sortStrings ids)
  have hne : sortStrings ids ≠ [] := by
    intro hnil
    have hlength := (List.perm_insertionSort (· ≤ ·) ids).length_eq
    have hasked := hmeets.length_eq
    rw [show ids.insertionSort (· ≤ ·) = [] from hnil, List.length_nil] at hlength
    omega
  have hdevice : ∀ id ∈ sortStrings ids, ∃ index, id = deviceID config.resourceName index :=
    fun id hid => h.eq_deviceID (hserves id ((List.mem_insertionSort _).mp hid))
  have hsplit : split ',' (",".intercalate (sortStrings ids)) = sortStrings ids := by
    refine split_intercalate ',' hne fun id hid => ?_
    obtain ⟨index, rfl⟩ := hdevice id hid
    exact comma_not_mem_deviceID hname index
  have htext : ",".intercalate (sortStrings ids) ≠ "" := by
    intro hempty
    -- the empty text would be the list of one empty ID
    rw [hempty, show split ',' "" = [""] from rfl] at hsplit
    obtain ⟨index, hindex⟩ := hdevice "" (by rw [← hsplit]; exact List.mem_singleton_self _)
    exact deviceID_ne_empty _ _ hindex.symm
  refine ⟨by rw [hresources, h.config_eq], ⟨_, ids, hids, hmeets, hsplit⟩, ?_⟩
  unfold syntheticWorkload
  rw [hids, hresources, h.config_eq]
  simp [hresource, htext, Except.isOk, Except.toBool]

end Plugin

/-- Requests that can be served are answered, with devices that meet them. -/
theorem exists_preferredDevices {P : ContainerPreferredAllocationRequest → List String → Prop} :
    ∀ {requests : List ContainerPreferredAllocationRequest},
      (∀ request ∈ requests, Servable request ∧ ∀ ids, MeetsRequest request ids → P request ids) →
        ∃ answers, List.Forall₂ (fun request ids => preferredDevices request = .ok ids ∧
          P request ids) requests answers
  | [], _ => ⟨[], .nil⟩
  | request :: requests, h => by
      obtain ⟨⟨hservable, hmeets⟩, hrest⟩ := List.forall_mem_cons.mp h
      have hnot : ¬ RepeatsHideExcess request := fun hhide => by
        have hle := hservable.size_le
        have hlt := hhide.1
        omega
      have hexact := answersExactly_of_not_hidden hnot
      obtain ⟨ids, hids⟩ := hexact.succeeds_iff.mpr hservable
      obtain ⟨answers, hanswers⟩ := exists_preferredDevices hrest
      exact ⟨ids :: answers, .cons ⟨hids, hmeets ids (hexact.meets ids hids)⟩ hanswers⟩

theorem resourceName_of_new [Kube] {config : Config} {p : Plugin} (h : new config = .ok p) :
    Kube.isQualifiedName config.resourceName = true ∧ config.resourceName ≠ "" := by
  unfold new at h
  split_ifs at h with hname
  simp only [Bool.or_eq_true, Bool.not_eq_true', not_or, Bool.not_eq_false] at hname
  refine ⟨hname.1, ?_⟩
  intro hempty
  rw [hempty] at hname
  exact absurd hname.2 (by decide)

/-- **From the list to the workload.**  If the kubelet asks for devices that are healthy in the
current list, and its requests can be served, then `GetPreferredAllocation` answers, the answer is
allocated, and every container reads from its environment the devices that meet its request. -/
theorem Plugin.preferred_allocated [Kube] [PlainNames] (config : Config) (p : Plugin)
    (hnew : new config = .ok p) (events : List WatchEvent)
    (requests : List ContainerPreferredAllocationRequest)
    (hservable : ∀ request ∈ requests, Servable request ∧ 1 ≤ request.allocationSize)
    (hhealthy : ∀ request ∈ requests, ∀ id ∈ request.availableDeviceIDs,
      ∃ device ∈ (run watchStep (State.start p) events).value.deviceList,
        device.id = id ∧ device.health = .healthy) :
    ∃ responses environments, getPreferredAllocation [] requests = .ok responses ∧
      (run watchStep (State.start p) events).value.allocate [] responses = .ok environments ∧
      List.Forall₂ (Reads config) requests environments := by
  have hhas := has_run hnew events
  generalize (run watchStep (State.start p) events).value = q at hhas hhealthy ⊢
  obtain ⟨hqualified, hresource⟩ := resourceName_of_new hnew
  have hname := PlainNames.no_comma _ hqualified
  have hanswer : ∀ request ∈ requests, Servable request ∧ ∀ ids, MeetsRequest request ids →
      q.Serves ids ∧ Reads config request (q.environment (sortStrings ids)) := by
    intro request hrequest
    obtain ⟨hcan, hsize⟩ := hservable request hrequest
    refine ⟨hcan, fun ids hmeets => ?_⟩
    have hserves : q.Serves ids := by
      intro id hid
      obtain ⟨device, hdevice, rfl, hhealth⟩ :=
        hhealthy request hrequest id (hmeets.available id hid)
      exact hhas.hasHealthy hdevice hhealth
    exact ⟨hserves, hhas.reads hresource hname hmeets hsize hserves⟩
  obtain ⟨answers, hanswers⟩ := exists_preferredDevices hanswer
  refine ⟨answers, _, getPreferredAllocation_eq_ok_iff.mpr
    ⟨answers, hanswers.imp fun _ _ h => h.1, rfl⟩, allocate_eq_ok_iff.mpr ⟨?_, rfl⟩, ?_⟩
  · clear hanswer hhealthy hservable
    induction hanswers with
    | nil => simp
    | cons hfirst _ ih => exact List.forall_mem_cons.mpr ⟨hfirst.2.1, ih⟩
  · rw [List.nil_append, List.forall₂_map_right_iff]
    exact hanswers.imp fun _ _ h => h.2.2

instance : @PlainNames sampleKube := @PlainNames.mk sampleKube fun name h hcomma => by
  have hall := (Bool.and_eq_true_iff.mp h).1
  exact absurd (List.all_eq_true.mp hall ',' hcomma) (by decide)

/-- One of two devices is unhealthy, and the other one is asked for. -/
theorem Plugin.preferred_allocated_healthy :
    let : Kube := sampleKube
    let events : List WatchEvent := [.change ("nvidia-com-gpu-0", .unhealthy)]
    let requests : List ContainerPreferredAllocationRequest := [⟨["nvidia-com-gpu-1"], [], 1⟩]
    ∃ responses environments, getPreferredAllocation [] requests = .ok responses ∧
      (run watchStep (State.start twoDevicePlugin) events).value.allocate [] responses =
        .ok environments ∧
      List.Forall₂ (Reads twoDevices) requests environments := by
  intro kube events requests
  refine Plugin.preferred_allocated _ _ new_twoDevices events requests ?_ ?_
  · rintro request hrequest
    obtain rfl := List.mem_singleton.mp hrequest
    exact ⟨⟨by decide, by decide, by simp, by decide⟩, by decide⟩
  · rintro request hrequest id hid
    obtain rfl := List.mem_singleton.mp hrequest
    obtain rfl := List.mem_singleton.mp hid
    decide +kernel

end AcceleratorFabric.DevicePlugin
