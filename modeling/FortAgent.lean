import FortAgent.Jaus.Monitoring
import FortAgent.Jaus.OperatorConsent
import FortAgent.Jaus.Pause
import FortAgent.Jaus.Pending
import FortAgent.Jaus.ServiceThread
import FortAgent.Jaus.Reachability
import FortAgent.Jaus.AxisValidity
import FortAgent.Coap.Reply
import FortAgent.Coap.Atomicity
import FortAgent.Coap.TokenTracking
import FortAgent.Coap.MidRouting
import FortAgent.Coap.Containment
import FortAgent.Serial.Handler
import FortAgent.Serial.Canonical
import FortAgent.Serial.SlipSend
import FortAgent.Serial.Listening
import FortAgent.SpammyLogMsg
import FortAgent.Serial.TransmitQueue
import FortAgent.Serial.Link
import FortAgent.Uart.Forwarding
import FortAgent.Uart.SerialFrames
import FortAgent.Uart.Routing
import FortAgent.Uart.Rejection
import FortAgent.Uart.Agent
import FortAgent.Uart.CatchUp
import FortAgent.Uart.SendFailures
import FortAgent.Joystick.BurstDetection
import FortAgent.Joystick.BatteryLoop
import FortAgent.Joystick.BatteryMap
import FortAgent.Joystick.CborHelpers
