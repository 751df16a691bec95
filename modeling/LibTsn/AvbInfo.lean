/-
# Stream records

What the AVB manager keeps per stream and per media clock, as far as the control
protocols read or change it.
-/
import LibTsn.Bytes

/-- `avb_source_state_t` and `avb_sink_state_t`. -/
inductive AvbStreamState where
  | disabled
  | potential
  | enabled
  deriving DecidableEq, Repr

structure AvbSrpInfo where
  streamId0 : UInt32
  streamId1 : UInt32
  destMacAddr : Vector UInt8 6
  vlanId : UInt16
  tspecMaxFrameSize : UInt16
  tspecMaxInterval : UInt16
  tspec : UInt8
  accumulatedLatency : UInt32
  failureBridgeId : Vector UInt8 8
  failureCode : UInt8
  deriving DecidableEq

structure AvbStreamInfo where
  state : AvbStreamState
  numChannels : UInt8
  format : UInt8
  rate : ℤ
  deriving DecidableEq

/-- `avb_source_info_t` and `avb_sink_info_t`. -/
structure AvbEndpointInfo where
  reservation : AvbSrpInfo
  stream : AvbStreamInfo
  deriving DecidableEq

structure MediaClockInfo where
  clockType : ℕ
  rate : ℤ
  lockCounter : ℤ
  unlockCounter : ℤ
  deriving DecidableEq
