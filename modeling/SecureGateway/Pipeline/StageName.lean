namespace SecureGateway

/-- The closed set of places a handler can take in a pipeline. -/
inductive StageName where
  | proxy
  | ssl
  | sslReader
  | sslLogging
  | logging
  | channelMetrics
  | codec
  | application
  deriving DecidableEq, Repr, Inhabited

namespace StageName

def all : List StageName :=
  [proxy, ssl, sslReader, sslLogging, logging, channelMetrics, codec, application]

def text : StageName → String
  | proxy => "proxy"
  | ssl => "ssl"
  | sslReader => "ssl-reader"
  | sslLogging => "ssl-logging"
  | logging => "logging"
  | channelMetrics => "channel-metrics"
  | codec => "codec"
  | application => "application"

def debugText : StageName → String
  | proxy => "ProxyHandler"
  | ssl => "SslHandler"
  | sslReader => "SslReader"
  | sslLogging => "SslLoggingHandler"
  | logging => "LoggingHandler"
  | channelMetrics => "ChannelMetricsHandler"
  | codec => "Codec"
  | application => "Application"

def ofText? (s : String) : Option StageName :=
  all.find? fun n => n.text == s

end StageName

inductive PipelineError where
  | duplicateStage (name : StageName)
  | noSuchStage (name : StageName)
  deriving DecidableEq, Repr

namespace PipelineError

def message : PipelineError → String
  | duplicateStage n => "stage " ++ "\x60" ++ n.text ++ "\x60" ++ " already exists"
  | noSuchStage n => "no stage named " ++ "\x60" ++ n.text ++ "\x60"

def debugText : PipelineError → String
  | duplicateStage n => "DuplicateStage(" ++ n.debugText ++ ")"
  | noSuchStage n => "NoSuchStage(" ++ n.debugText ++ ")"

end PipelineError
end SecureGateway
