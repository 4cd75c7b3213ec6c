import DPUFabric.Device

/-!
# Synthetic devices

The builders that the synthetic backend, the worker process and the coordinator
share.  A synthetic device claims every proof that an offload may ask for, under a
provenance that says it is synthetic.
-/

namespace DPUFabric

/-! ## Capability keys -/

def capNetwork : CapabilityKey := ⟨text "NETWORK", Or.inr (by decide)⟩

def capEncryption : CapabilityKey := ⟨text "ENCRYPTION", Or.inr (by decide)⟩

def capSteering : CapabilityKey := ⟨text "PACKET_STEERING", Or.inr (by decide)⟩

def capStorage : CapabilityKey := ⟨text "STORAGE", Or.inr (by decide)⟩

def capCompression : CapabilityKey := ⟨text "COMPRESSION", Or.inr (by decide)⟩

def capChecksum : CapabilityKey := ⟨text "CHECKSUM", Or.inr (by decide)⟩

/-! ## Devices -/

/-- `add_capability`, with the defaults of its last two parameters. -/
def addCapability (d : DeviceRecord) (key : CapabilityKey) : DeviceRecord :=
  { d with
    capabilities := d.capabilities.add
      { key := key
        state := .declared .supported
        version := 1
        evidenceGen := ⟨1⟩
        source := .declared .synthetic } }

def makeDpu (id : DeviceId) (model : Text) (caps : List CapabilityKey) (cap : ResourceProfile)
    (boot : DeviceBootId) (classes : List OffloadClass) : DeviceRecord :=
  caps.foldl addCapability
    { deviceId := id
      generation := ⟨1⟩
      bootId := boot
      vendor := text "synthetic"
      model := model
      deviceClass := .declared .dpu
      pciReference := text "0000:" ++ List.replicate model.length 48 ++ text ":00.0"
      firmwareVersion := text "1.0"
      firmwareGen := ⟨2⟩
      runtimeVersion := text "1.2"
      runtimeGen := ⟨3⟩
      architecture := text "arm64"
      processingUnits := 8
      memoryBytes := cap.memoryBytes
      availableProgrammableMemory := cap.memoryBytes
      resourceCapacity := cap
      locality := .declared .sameFunction
      health := .declared .healthy
      lifecycle := .declared .ready
      discoverySource := .declared .synthetic
      evidenceGen := ⟨42⟩
      evidenceFresh := true
      offloadClasses := classes.map .declared
      executionModels := [.declared .nativeDataPlane]
      programFormats := [text "synthetic-rte"]
      hardwareIsolation := true
      isolationProven := true }

/-- The first device of `scenario_ab`: a network device with limited memory. -/
def deviceA : DeviceRecord :=
  { makeDpu ⟨1⟩ (text "DPU-A") [capNetwork, capEncryption, capSteering]
      { memoryBytes := (256 : UInt64) <<< 20, queues := 8, functions := 2, slots := 16, contexts := 16 }
      ⟨0xA1⟩ [.networkService, .securityService, .packetSteering] with
    ports := [⟨1⟩, ⟨2⟩]
    functions := [⟨11⟩]
    hardwareIsolation := true
    isolationProven := true
    isolationDomain := ⟨7⟩
    tenant := ⟨100⟩ }

/-- The second one: a storage device with more memory, isolated from the first. -/
def deviceB : DeviceRecord :=
  { makeDpu ⟨2⟩ (text "DPU-B") [capStorage, capCompression, capChecksum]
      { memoryBytes := (2 : UInt64) <<< 30, queues := 16, functions := 4, slots := 32, contexts := 32 }
      ⟨0xB2⟩ [.storageService, .compression, .checksum] with
    ports := [⟨10⟩, ⟨11⟩]
    functions := [⟨21⟩]
    hardwareIsolation := true
    isolationProven := true
    isolationDomain := ⟨8⟩
    tenant := ⟨200⟩ }

end DPUFabric
