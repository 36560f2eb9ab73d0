import GiapiGlue.Giapi

set_option autoImplicit false

/-! # The keys of the GMP

The destinations and property names of `GMPKeys` that the modelled code uses, put together as the
source does. -/

namespace Giapi

namespace GMPKeys

def gmpPrefix : CxxString := str "GMP"

def gmpSeparator : CxxString := str "."

def gmpSequenceCommandPrefix : CxxString := gmpPrefix ++ gmpSeparator ++ str "SC" ++ gmpSeparator

def gmpStatusDestinationPrefix : CxxString :=
  gmpPrefix ++ gmpSeparator ++ str "STATUS" ++ gmpSeparator

def gmpEpicsTopicPrefix : CxxString := gmpPrefix ++ gmpSeparator ++ str "EPICS" ++ gmpSeparator

def gmpGeminiEpicsChannelProperty : CxxString := str "EPICS_CHANNEL"

def gmpCompletionInfo : CxxString := gmpPrefix ++ gmpSeparator ++ str "COMPLETION_INFO"

def gmpGeminiEpicsRequestDestination : CxxString :=
  gmpPrefix ++ gmpSeparator ++ str "EPICS_REQUEST_DESTINATION"

/-! ## Utility requests -/

def gmpUtilRequestType : CxxString := str "REQUEST_TYPE"

def gmpUtilRequestProperty : CInt := 0

def gmpUtilProperty : CxxString := str "PROPERTY"

/-! ## Logging -/

def gmpServicesLogDestination : CxxString := gmpPrefix ++ gmpSeparator ++ str "LOGGING_DESTINATION"

def gmpServicesLogLevel : CxxString := str "LEVEL"

/-! ## Updates of the PCS -/

def gmpPcsUpdateDestination : CxxString := gmpPrefix ++ gmpSeparator ++ str "PCS_UPDATE_DESTINATION"

/-! ## Observation events -/

def gmpDataObseventDestination : CxxString := gmpPrefix ++ gmpSeparator ++ str "OBSEVENT_DESTINATION"

def gmpDataObseventName : CxxString := str "OBSEVENT_NAME"

def gmpDataObseventFilename : CxxString := str "OBSEVENT_FILENAME"

/-! ## File events -/

def gmpDataFileeventDestination : CxxString :=
  gmpPrefix ++ gmpSeparator ++ str "FILEEVENT_DESTINATION"

def gmpDataFileeventType : CxxString := str "TYPE"

def gmpDataFileeventFilename : CxxString := str "FILENAME"

def gmpDataFileeventDatalabel : CxxString := str "DATALABEL"

def gmpDataFileeventHint : CxxString := str "HINT"

/-! ## Activities -/

def gmpActivityProp : CxxString := str "GMP_ACTIVITY_PROP"

def gmpActionidProp : CxxString := str "GMP_ACTIONID"

def gmpActivityPreset : CxxString := str "PRESET"

def gmpActivityStart : CxxString := str "START"

def gmpActivityPresetStart : CxxString := str "PRESET/START"

def gmpActivityCancel : CxxString := str "CANCEL"

/-! ## Handler responses -/

def gmpHandlerResponseAccepted : CxxString := str "ACCEPTED"

def gmpHandlerResponseStarted : CxxString := str "STARTED"

def gmpHandlerResponseCompleted : CxxString := str "COMPLETED"

def gmpHandlerResponseError : CxxString := str "ERROR"

def gmpHandlerResponseKey : CxxString := str "GMP_HANDLER_RESPONSE"

def gmpHandlerResponseErrorKey : CxxString := str "GMP_HANDLER_RESPONSE_ERROR"

/-! ## Sequence commands -/

/-- The topic of each sequence command, `GMP_SEQUENCE_COMMAND_TEST` to
    `GMP_SEQUENCE_COMMAND_ENGINEERING`. -/
def gmpSequenceCommand : SequenceCommand → CxxString
  | .test => gmpSequenceCommandPrefix ++ str "TEST"
  | .reboot => gmpSequenceCommandPrefix ++ str "REBOOT"
  | .init => gmpSequenceCommandPrefix ++ str "INIT"
  | .datum => gmpSequenceCommandPrefix ++ str "DATUM"
  | .park => gmpSequenceCommandPrefix ++ str "PARK"
  | .verify => gmpSequenceCommandPrefix ++ str "VERIFY"
  | .endVerify => gmpSequenceCommandPrefix ++ str "END_VERIFY"
  | .guide => gmpSequenceCommandPrefix ++ str "GUIDE"
  | .endGuide => gmpSequenceCommandPrefix ++ str "END_GUIDE"
  | .apply => gmpSequenceCommandPrefix ++ str "APPLY"
  | .observe => gmpSequenceCommandPrefix ++ str "OBSERVE"
  | .endObserve => gmpSequenceCommandPrefix ++ str "END_OBSERVE"
  | .pause => gmpSequenceCommandPrefix ++ str "PAUSE"
  | .continue => gmpSequenceCommandPrefix ++ str "CONTINUE"
  | .stop => gmpSequenceCommandPrefix ++ str "STOP"
  | .stopCycle => gmpSequenceCommandPrefix ++ str "STOP_CYCLE"
  | .abort => gmpSequenceCommandPrefix ++ str "ABORT"
  | .engineering => gmpSequenceCommandPrefix ++ str "ENGINEERING"

end GMPKeys

end Giapi
