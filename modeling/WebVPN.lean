import WebVPN.Agent.Control
import WebVPN.Agent.Registry
import WebVPN.Agent.TemporaryTarget
import WebVPN.Browser.Authority
import WebVPN.Browser.Budget
import WebVPN.Browser.Cookie
import WebVPN.Browser.Stun
import WebVPN.Browser.Superseded
import WebVPN.Browser.Transport
import WebVPN.Controller.Logout
import WebVPN.Controller.Rejection
import WebVPN.Deployment.Authorization
import WebVPN.Identity.Binding
import WebVPN.Identity.Challenge
import WebVPN.Identity.Replay
import WebVPN.Session.Noninterference
import WebVPN.Session.Revocation
import WebVPN.Signaling.Wakeup
import WebVPN.Storage.Migrations
import WebVPN.Wisp.Backpressure
import WebVPN.Wisp.Codec
import WebVPN.Wisp.Connection
import WebVPN.Wisp.Credit
import WebVPN.Wisp.Downstream
import WebVPN.Wisp.Incarnation
