import ViewGuard.Loader.Files
import ViewGuard.Loader.Load
import ViewGuard.Loader.Monitor
import ViewGuard.Loader.Watchers
import ViewGuard.Inference.Boxes
import ViewGuard.Inference.Binary64
import ViewGuard.Inference.Letterbox
import ViewGuard.Inference.Iou
import ViewGuard.Inference.Nms
import ViewGuard.Inference.Statistics
import ViewGuard.Inference.Engine
import ViewGuard.Detection.Filter
import ViewGuard.Detection.Summary
import ViewGuard.Api.Endpoints
import ViewGuard.Api.Service
import ViewGuard.Service.Startup
