import Samurai.UsbGadgetModel

/-!
# The compositions of `init.qcom.usb.rc`

The actions of the file with tests of properties, in its order.  Those that
set up `uvc.0` and `uac2.0` and the one for tethering touch no node of the
gadget and are left out, as are the actions with an event of the boot, which
set properties only or come before all others.
-/

namespace Samurai

namespace UsbFunction

def mass_storage_0 : UsbFunction := ⟨.word .mass_storage, .word (.number 0)⟩

def ffs_adb : UsbFunction := ⟨.word (.text "ffs"), .word .adb⟩

def diag : UsbFunction := ⟨.property .vendor_usb_diag_func_name, .word .diag⟩

def cser_dun_0 : UsbFunction := ⟨.word (.text "cser"), .word (.text "dun.0")⟩

def rmnet : UsbFunction :=
  ⟨.property .vendor_usb_rmnet_func_name, .property .vendor_usb_rmnet_inst_name⟩

def cser_nmea_1 : UsbFunction := ⟨.word (.text "cser"), .word (.text "nmea.1")⟩

def rndis : UsbFunction := ⟨.property .vendor_usb_rndis_func_name, .word .rndis⟩

def mtp_gs0 : UsbFunction := ⟨.word .mtp, .word (.text "gs0")⟩

def ffs_mtp : UsbFunction := ⟨.word (.text "ffs"), .word .mtp⟩

def qdss : UsbFunction := ⟨.word .qdss, .property .vendor_usb_qdss_inst_name⟩

def ncm_gs6 : UsbFunction := ⟨.word .ncm, .word (.text "gs6")⟩

def dpl : UsbFunction :=
  ⟨.property .vendor_usb_rmnet_func_name, .property .vendor_usb_dpl_inst_name⟩

def ccid_ccid : UsbFunction := ⟨.word .ccid, .word .ccid⟩

def diag_mdm : UsbFunction :=
  ⟨.property .vendor_usb_diag_func_name, .word .diag_mdm⟩

def qdss_mdm : UsbFunction := ⟨.word .qdss, .word .qdss_mdm⟩

def cser_dun_2 : UsbFunction := ⟨.word (.text "cser"), .word (.text "dun.2")⟩

def uac2 : UsbFunction := ⟨.word .uac2, .word (.number 0)⟩

def uvc : UsbFunction := ⟨.word .uvc, .word (.number 0)⟩

def diag_mdm_inst : UsbFunction :=
  ⟨.property .vendor_usb_diag_func_name,
    .propertyOr .vendor_usb_diag_mdm_inst_name .diag_mdm⟩

def diag_mdm2 : UsbFunction :=
  ⟨.property .vendor_usb_diag_func_name, .word .diag_mdm2⟩

def uac1_uac1 : UsbFunction := ⟨.word .uac1, .word .uac1⟩

def diag_diag : UsbFunction := ⟨.word .diag, .word .diag⟩

def ffs_ptp : UsbFunction := ⟨.word (.text "ffs"), .word .ptp⟩

end UsbFunction

open UsbFunction in
def init_qcom_usb_rc : List UsbEntry :=
  [
    .plain
      { tests :=
          [(.sys_usb_config, none), (.sys_usb_configfs, some [.number 2])]
        commands :=
          [.setprop .vendor_usb_config [.property .sys_usb_config]] },
    .plain
      { tests :=
          [(.vendor_usb_config, none), (.sys_usb_configfs, some [.number 2])]
        commands :=
          [.start "usbd"] },
    .plain
      { tests :=
          [(.vendor_usb_controller, none),
           (.vendor_usb_use_gadget_hal, some [.number 0])]
        commands :=
          [.setprop .sys_usb_controller [.property .vendor_usb_controller],
           .setprop .sys_usb_configfs [.word (.number 1)]] },
    .plain
      { tests :=
          [(.sys_usb_config, none), (.sys_usb_configfs, some [.number 1])]
        commands :=
          [.rm (.g1 .os_desc)] },
    .plain
      { tests :=
          [(.sys_usb_config, some [.none_]),
           (.sys_usb_configfs, some [.number 1])]
        commands :=
          [.rm (.g1 (.function 1)), .rm (.g1 (.function 2)),
           .rm (.g1 (.function 3)), .rm (.g1 (.function 4)),
           .rm (.g1 (.function 5)), .rm (.g1 (.function 6)),
           .rm (.g1 (.function 7)), .rm (.g1 (.function 8)),
           .rm (.g1 (.function 9))] },
    .composition
      { config := [.mass_storage]
        configuration := "msc"
        idVendor := "0x22D9"
        idProduct := "0x2768"
        functions := [mass_storage_0] },
    startAdbd [.mass_storage, .adb],
    .composition
      { config := [.mass_storage, .adb]
        ffs_ready := true
        configuration := "adb_msc"
        os_desc := true
        idVendor := "0x22D9"
        idProduct := "0x2767"
        functions := [ffs_adb, mass_storage_0] },
    startAdbd [.diag, .adb],
    .composition
      { config := [.diag, .adb]
        ffs_ready := true
        configuration := "diag_adb"
        os_desc := true
        idVendor := "0x22D9"
        idProduct := "0x276C"
        writes := [(.pid, "0x901d")]
        functions := [diag, ffs_adb] },
    .composition
      { config := [.diag]
        configuration := "diag"
        idVendor := "0x05C6"
        idProduct := "0x900E"
        writes := [(.pid, "0x900e")]
        functions := [diag] },
    startAdbd [.diag, .serial_cdev, .rmnet, .adb],
    .composition
      { config := [.diag, .serial_cdev, .rmnet, .adb]
        ffs_ready := true
        configuration := "Default composition"
        os_desc := true
        idVendor := "0x05C6"
        idProduct := "0x9091"
        writes := [(.pid, "0x9091")]
        functions := [diag, cser_dun_0, rmnet, ffs_adb] },
    .composition
      { config := [.diag, .serial_cdev, .rmnet]
        configuration := "Default comp without ADB"
        idVendor := "0x05C6"
        idProduct := "0x9092"
        writes := [(.pid, "0x9092")]
        functions := [diag, cser_dun_0, rmnet] },
    startAdbd [.diag, .serial_cdev, .serial_cdev_nmea, .adb],
    .composition
      { config := [.diag, .serial_cdev, .serial_cdev_nmea, .adb]
        ffs_ready := true
        configuration := "diag_dun_nmea_adb"
        os_desc := true
        idVendor := "0x05C6"
        idProduct := "0x9020"
        writes := [(.pid, "0x9020")]
        functions := [diag, ffs_adb, cser_dun_0, cser_nmea_1] },
    .plain
      { tests :=
          [(.sys_usb_config, some [.rndis]), (.vendor_usb_rndis_func_name, none)]
        commands :=
          [.setprop .sys_usb_config
             [.word .rndis, .property .persist_vendor_usb_config_extra]] },
    .composition
      { config := [.rndis, .none_]
        configuration := "rndis"
        idVendor := "0x05C6"
        idProduct := "0xF00E"
        functions := [rndis]
        state := some [.rndis] },
    .plain
      { tests :=
          [(.sys_usb_config, some [.rndis, .sec]),
           (.sys_usb_configfs, some [.number 1])]
        commands :=
          [.write (.g2 .configuration) "rndis", .rm (.g2 (.function 1)),
           .write (.g2 .idVendor) "0x05C6", .write (.g2 .idProduct) "0xF00E",
           .symlink rndis (.g2 (.function 1)),
           .bind_g2 .persist_vendor_usb_controller_secondary,
           .setprop .sys_usb_state [.word .rndis]] },
    .plain
      { tests :=
          [(.sys_usb_config, some [.rndis, .adb]),
           (.vendor_usb_rndis_func_name, none)]
        commands :=
          [.setprop .sys_usb_config
             [.word .rndis, .property .persist_vendor_usb_config_extra,
              .word .adb]] },
    startAdbd [.rndis, .none_, .adb],
    .composition
      { config := [.rndis, .none_, .adb]
        ffs_ready := true
        configuration := "rndis_adb"
        os_desc := true
        idVendor := "0x05C6"
        idProduct := "0x9024"
        functions := [rndis, ffs_adb]
        state := some [.rndis, .adb] },
    .composition
      { config := [.rndis, .diag]
        configuration := "rndis_diag"
        idVendor := "0x05C6"
        idProduct := "0x902C"
        functions := [rndis, diag]
        state := some [.rndis] },
    startAdbd [.rndis, .diag, .adb],
    .composition
      { config := [.rndis, .diag, .adb]
        ffs_ready := true
        configuration := "rndis_diag_adb"
        os_desc := true
        idVendor := "0x05C6"
        idProduct := "0x902D"
        functions := [rndis, diag, ffs_adb]
        state := some [.rndis, .adb] },
    .composition
      { config := [.rndis, .serial_cdev]
        configuration := "rndis_dun"
        idVendor := "0x05C6"
        idProduct := "0x90B3"
        functions := [rndis, cser_dun_0]
        state := some [.rndis] },
    startAdbd [.rndis, .serial_cdev, .adb],
    .composition
      { config := [.rndis, .serial_cdev, .adb]
        ffs_ready := true
        configuration := "rndis_dun_adb"
        os_desc := true
        idVendor := "0x05C6"
        idProduct := "0x90B4"
        functions := [rndis, cser_dun_0, ffs_adb]
        state := some [.rndis, .adb] },
    .composition
      { config := [.rndis, .serial_cdev, .diag]
        configuration := "rndis_dun_diag"
        idVendor := "0x05C6"
        idProduct := "0x90B5"
        functions := [rndis, cser_dun_0, diag]
        state := some [.rndis] },
    startAdbd [.rndis, .serial_cdev, .diag, .adb],
    .composition
      { config := [.rndis, .serial_cdev, .diag, .adb]
        ffs_ready := true
        configuration := "rndis_dun_diag"
        os_desc := true
        idVendor := "0x05C6"
        idProduct := "0x90B6"
        functions := [rndis, cser_dun_0, diag, ffs_adb]
        state := some [.rndis, .adb] },
    .composition
      { config := [.mtp, .diag]
        use_ffs_mtp := some 0
        configuration := "mtp_diag"
        os_desc := true
        idVendor := "0x05C6"
        idProduct := "0x901B"
        functions := [mtp_gs0, diag] },
    .composition
      { config := [.mtp, .diag]
        use_ffs_mtp := some 1
        configuration := "ffs-mtp_diag"
        os_desc := true
        idVendor := "0x05C6"
        idProduct := "0x901B"
        functions := [ffs_mtp, diag] },
    startAdbd [.mtp, .diag, .adb],
    .composition
      { config := [.mtp, .diag, .adb]
        ffs_ready := true
        use_ffs_mtp := some 0
        configuration := "mtp_diag_adb"
        os_desc := true
        idVendor := "0x05C6"
        idProduct := "0x903A"
        functions := [mtp_gs0, diag, ffs_adb] },
    .composition
      { config := [.mtp, .diag, .adb]
        ffs_ready := true
        use_ffs_mtp := some 1
        configuration := "ffs-mtp_diag_adb"
        os_desc := true
        idVendor := "0x05C6"
        idProduct := "0x903A"
        functions := [ffs_mtp, diag, ffs_adb] },
    .composition
      { config := [.diag, .qdss]
        configuration := "diag_qdss"
        idVendor := "0x05C6"
        idProduct := "0x904A"
        writes := [(.pid, "0x904a"), (.enable_debug_inface, "1")]
        functions := [diag, qdss] },
    startAdbd [.diag, .qdss, .adb],
    .composition
      { config := [.diag, .qdss, .adb]
        ffs_ready := true
        configuration := "diag_qdss_adb"
        os_desc := true
        idVendor := "0x05C6"
        idProduct := "0x9060"
        writes := [(.pid, "0x9060"), (.enable_debug_inface, "1")]
        functions := [diag, qdss, ffs_adb] },
    .composition
      { config := [.diag, .qdss, .rmnet]
        configuration := "diag_qdss_rmnet"
        idVendor := "0x05C6"
        idProduct := "0x9083"
        writes := [(.pid, "0x9083"), (.enable_debug_inface, "1")]
        functions := [diag, qdss, rmnet] },
    startAdbd [.diag, .qdss, .rmnet, .adb],
    .composition
      { config := [.diag, .qdss, .rmnet, .adb]
        ffs_ready := true
        configuration := "diag_qdss_rmnet_adb"
        os_desc := true
        idVendor := "0x05C6"
        idProduct := "0x9084"
        writes := [(.pid, "0x9084"), (.enable_debug_inface, "1")]
        functions := [diag, qdss, ffs_adb, rmnet] },
    .composition
      { config := [.rndis, .diag, .qdss]
        configuration := "rndis_diag_qdss"
        idVendor := "0x05C6"
        idProduct := "0x9081"
        writes := [(.enable_debug_inface, "1")]
        functions := [rndis, diag, qdss]
        state := some [.rndis] },
    startAdbd [.rndis, .diag, .qdss, .adb],
    .composition
      { config := [.rndis, .diag, .qdss, .adb]
        ffs_ready := true
        configuration := "rndis_diag_qdss_adb"
        os_desc := true
        idVendor := "0x05C6"
        idProduct := "0x9082"
        writes := [(.enable_debug_inface, "1")]
        functions := [rndis, diag, qdss, ffs_adb]
        state := some [.rndis, .adb] },
    .composition
      { config := [.ncm]
        configuration := "ncm"
        idVendor := "0x05C6"
        idProduct := "0xA4A1"
        functions := [ncm_gs6] },
    startAdbd [.ncm, .adb],
    .composition
      { config := [.ncm, .adb]
        ffs_ready := true
        configuration := "ncm_adb"
        os_desc := true
        idVendor := "0x05C6"
        idProduct := "0x908C"
        functions := [ncm_gs6, ffs_adb] },
    .composition
      { config := [.diag, .serial_cdev]
        configuration := "diag_dun"
        idVendor := "0x05C6"
        idProduct := "0x9004"
        writes := [(.pid, "0x9004")]
        functions := [diag, cser_dun_0] },
    startAdbd [.diag, .adb, .serial_cdev],
    .composition
      { config := [.diag, .adb, .serial_cdev]
        ffs_ready := true
        configuration := "diag_adb_dun"
        os_desc := true
        idVendor := "0x05C6"
        idProduct := "0x901f"
        writes := [(.pid, "0x901f")]
        functions := [diag, ffs_adb, cser_dun_0] },
    .composition
      { config := [.diag, .serial_cdev, .rmnet, .dpl]
        configuration := "diag_dun_rmnet_dpl"
        idVendor := "0x05C6"
        idProduct := "0x90b7"
        writes := [(.pid, "0x90b7")]
        functions := [diag, cser_dun_0, rmnet, dpl] },
    startAdbd [.diag, .serial_cdev, .rmnet, .dpl, .adb],
    .composition
      { config := [.diag, .serial_cdev, .rmnet, .dpl, .adb]
        ffs_ready := true
        configuration := "diag_dun_rmnet_dpl_adb"
        os_desc := true
        idVendor := "0x05C6"
        idProduct := "0x90b8"
        writes := [(.pid, "0x90b8")]
        functions := [diag, cser_dun_0, rmnet, dpl, ffs_adb] },
    .composition
      { config := [.rndis, .diag, .dpl]
        configuration := "rndis_diag_dpl"
        idVendor := "0x05C6"
        idProduct := "0x90bf"
        functions := [rndis, diag, dpl]
        state := some [.rndis] },
    startAdbd [.rndis, .diag, .dpl, .adb],
    .composition
      { config := [.rndis, .diag, .dpl, .adb]
        ffs_ready := true
        configuration := "rndis_diag_dpl_adb"
        os_desc := true
        idVendor := "0x05C6"
        idProduct := "0x90c0"
        functions := [rndis, diag, dpl, ffs_adb]
        state := some [.rndis, .adb] },
    .composition
      { config := [.ccid]
        configuration := "ccid"
        idVendor := "0x05C6"
        idProduct := "0x90CE"
        functions := [ccid_ccid] },
    startAdbd [.ccid, .adb],
    .composition
      { config := [.ccid, .adb]
        ffs_ready := true
        configuration := "ccid_adb"
        os_desc := true
        idVendor := "0x05C6"
        idProduct := "0x90CF"
        functions := [ccid_ccid, ffs_adb] },
    .composition
      { config := [.ccid, .diag]
        configuration := "ccid_diag"
        idVendor := "0x05C6"
        idProduct := "0x90D0"
        functions := [ccid_ccid, diag] },
    startAdbd [.ccid, .diag, .adb],
    .composition
      { config := [.ccid, .diag, .adb]
        ffs_ready := true
        configuration := "ccid_diag_adb"
        os_desc := true
        idVendor := "0x05C6"
        idProduct := "0x90D1"
        functions := [ccid_ccid, diag, ffs_adb] },
    .composition
      { config := [.diag, .serial_cdev, .rmnet, .ccid]
        configuration := "diag_dun_rmnet_ccid"
        idVendor := "0x05C6"
        idProduct := "0x90D2"
        writes := [(.pid, "0x90d2")]
        functions := [diag, cser_dun_0, rmnet, ccid_ccid] },
    startAdbd [.diag, .serial_cdev, .rmnet, .ccid, .adb],
    .composition
      { config := [.diag, .serial_cdev, .rmnet, .ccid, .adb]
        ffs_ready := true
        configuration := "diag_dun_rmnet_ccid_adb"
        os_desc := true
        idVendor := "0x05C6"
        idProduct := "0x90D3"
        writes := [(.pid, "0x90d3")]
        functions := [diag, cser_dun_0, rmnet, ccid_ccid, ffs_adb] },
    .composition
      { config := [.diag, .diag_mdm, .qdss, .qdss_mdm, .serial_cdev,
          .serial_cdev_mdm, .rmnet]
        configuration := "diag_diag_mdm,qdss_qdss_mdm_dun_dun_mdm_rmnet"
        idVendor := "0x05C6"
        idProduct := "0x90D7"
        writes := [(.pid, "0x90d7")]
        functions := [diag, diag_mdm, qdss, qdss_mdm, cser_dun_0, cser_dun_2,
          rmnet] },
    startAdbd
      [.diag, .diag_mdm, .qdss, .qdss_mdm, .serial_cdev, .serial_cdev_mdm, .rmnet,
       .adb],
    .composition
      { config := [.diag, .diag_mdm, .qdss, .qdss_mdm, .serial_cdev,
          .serial_cdev_mdm, .rmnet, .adb]
        ffs_ready := true
        configuration := "diag_diag_mdm,qdss_qdss_mdm_dun_dun_mdm_rmnet_adb"
        os_desc := true
        idVendor := "0x05C6"
        idProduct := "0x90D8"
        writes := [(.pid, "0x90d8")]
        functions := [diag, diag_mdm, qdss, qdss_mdm, cser_dun_0, cser_dun_2,
          rmnet, ffs_adb] },
    .composition
      { config := [.diag, .diag_mdm, .qdss, .qdss_mdm, .serial_cdev,
          .serial_cdev_mdm, .dpl, .rmnet]
        configuration := "diag_diag_mdm,qdss_qdss_mdm_dun_dun_mdm_dpl_rmnet"
        idVendor := "0x05C6"
        idProduct := "0x90DD"
        writes := [(.pid, "0x90dd")]
        functions := [diag, diag_mdm, qdss, qdss_mdm, cser_dun_0, cser_dun_2, dpl,
          rmnet] },
    startAdbd
      [.diag, .diag_mdm, .qdss, .qdss_mdm, .serial_cdev, .serial_cdev_mdm, .dpl,
       .rmnet, .adb],
    .composition
      { config := [.diag, .diag_mdm, .qdss, .qdss_mdm, .serial_cdev,
          .serial_cdev_mdm, .dpl, .rmnet, .adb]
        ffs_ready := true
        configuration := "diag_diag_mdm,qdss_qdss_mdm_dun_dun_mdm_dpl_rmnet_adb"
        os_desc := true
        idVendor := "0x05C6"
        idProduct := "0x90DE"
        writes := [(.pid, "0x90de")]
        functions := [diag, diag_mdm, qdss, qdss_mdm, cser_dun_0, cser_dun_2, dpl,
          rmnet, ffs_adb] },
    .composition
      { config := [.diag, .serial_cdev, .rmnet, .dpl, .qdss]
        configuration := "diag_dun_rmnet_dpl_qdss"
        idVendor := "0x05C6"
        idProduct := "0x90DC"
        writes := [(.pid, "0x90dc")]
        functions := [diag, cser_dun_0, rmnet, dpl, qdss] },
    startAdbd [.diag, .serial_cdev, .rmnet, .dpl, .qdss, .adb],
    .composition
      { config := [.diag, .serial_cdev, .rmnet, .dpl, .qdss, .adb]
        ffs_ready := true
        configuration := "diag_dun_rmnet_dpl_qdss_adb"
        os_desc := true
        idVendor := "0x05C6"
        idProduct := "0x90DB"
        writes := [(.pid, "0x90db")]
        functions := [diag, cser_dun_0, rmnet, dpl, qdss, ffs_adb] },
    startAdbd [.diag, .uac2, .adb],
    .composition
      { config := [.diag, .uac2, .adb]
        ffs_ready := true
        configuration := "diag_uac2_adb"
        os_desc := true
        idVendor := "0x05C6"
        idProduct := "0x90CA"
        writes := [(.pid, "0x90ca")]
        functions := [diag, ffs_adb, uac2] },
    .composition
      { config := [.diag, .uac2]
        configuration := "diag_uac2"
        idVendor := "0x05C6"
        idProduct := "0x901C"
        writes := [(.pid, "0x901c")]
        functions := [diag, uac2] },
    startAdbd [.diag, .uvc, .adb],
    .composition
      { config := [.diag, .uvc, .adb]
        ffs_ready := true
        configuration := "diag_uvc_adb"
        os_desc := true
        idVendor := "0x05C6"
        idProduct := "0x90CB"
        writes := [(.bDeviceClass, "0xEF"), (.bDeviceSubClass, "0x02"),
          (.bDeviceProtocol, "0x01"), (.pid, "0x90cb")]
        functions := [diag, ffs_adb, uvc] },
    .composition
      { config := [.diag, .uvc]
        configuration := "diag_uvc"
        idVendor := "0x05C6"
        idProduct := "0x90DF"
        writes := [(.bDeviceClass, "0xEF"), (.bDeviceSubClass, "0x02"),
          (.bDeviceProtocol, "0x01"), (.pid, "0x90df")]
        functions := [diag, uvc] },
    startAdbd [.diag, .uac2, .uvc, .adb],
    .composition
      { config := [.diag, .uac2, .uvc, .adb]
        ffs_ready := true
        configuration := "diag_uac2_uvc_adb"
        os_desc := true
        idVendor := "0x05C6"
        idProduct := "0x90CC"
        writes := [(.bDeviceClass, "0xEF"), (.bDeviceSubClass, "0x02"),
          (.bDeviceProtocol, "0x01"), (.pid, "0x90cc")]
        functions := [diag, ffs_adb, uac2, uvc] },
    .composition
      { config := [.diag, .uac2, .uvc]
        configuration := "diag_uac2_uvc"
        idVendor := "0x05C6"
        idProduct := "0x90E0"
        writes := [(.bDeviceClass, "0xEF"), (.bDeviceSubClass, "0x02"),
          (.bDeviceProtocol, "0x01"), (.pid, "0x90e0")]
        functions := [diag, uac2, uvc] },
    .composition
      { config := [.diag, .diag_mdm, .qdss, .qdss_mdm, .serial_cdev, .dpl, .rmnet]
        ffs_ready := true
        configuration := "diag_diag_mdm_qdss_qdss_mdm_dun_dpl_rmnet"
        idVendor := "0x05C6"
        idProduct := "0x90E4"
        writes := [(.pid, "0x90e4")]
        functions := [diag, diag_mdm, qdss, qdss_mdm, cser_dun_0, dpl, rmnet] },
    startAdbd
      [.diag, .diag_mdm, .qdss, .qdss_mdm, .serial_cdev, .dpl, .rmnet, .adb],
    .composition
      { config := [.diag, .diag_mdm, .qdss, .qdss_mdm, .serial_cdev, .dpl, .rmnet,
          .adb]
        ffs_ready := true
        configuration := "diag_diag_mdm_qdss_qdss_mdm_dun_dpl_rmnet_adb"
        os_desc := true
        idVendor := "0x05C6"
        idProduct := "0x90E5"
        writes := [(.pid, "0x90e5")]
        functions := [diag, diag_mdm, qdss, qdss_mdm, cser_dun_0, dpl, rmnet,
          ffs_adb] },
    .composition
      { config := [.rndis, .diag, .diag_mdm, .qdss, .qdss_mdm, .serial_cdev, .dpl]
        ffs_ready := true
        configuration := "rndis_diag_diag_mdm_qdss_qdss_mdm_dun_dpl"
        idVendor := "0x05C6"
        idProduct := "0x90E6"
        functions := [rndis, diag, diag_mdm, qdss, qdss_mdm, cser_dun_0, dpl]
        state := some [.rndis] },
    startAdbd
      [.rndis, .diag, .diag_mdm, .qdss, .qdss_mdm, .serial_cdev, .dpl, .adb],
    .composition
      { config := [.rndis, .diag, .diag_mdm, .qdss, .qdss_mdm, .serial_cdev, .dpl,
          .adb]
        ffs_ready := true
        configuration := "rndis_diag_diag_mdm_qdss_qdss_mdm_dun_dpl_adb"
        os_desc := true
        idVendor := "0x05C6"
        idProduct := "0x90E7"
        functions := [rndis, diag, diag_mdm, qdss, qdss_mdm, cser_dun_0, dpl,
          ffs_adb]
        state := some [.rndis, .adb] },
    .composition
      { config := [.rndis, .diag, .qdss, .serial_cdev, .dpl]
        ffs_ready := true
        configuration := "rndis_diag_qdss_dun_dpl"
        idVendor := "0x05C6"
        idProduct := "0x90E8"
        functions := [rndis, diag, qdss, cser_dun_0, dpl]
        state := some [.rndis] },
    startAdbd [.rndis, .diag, .qdss, .serial_cdev, .dpl, .adb],
    .composition
      { config := [.rndis, .diag, .qdss, .serial_cdev, .dpl, .adb]
        ffs_ready := true
        configuration := "rndis_diag_qdss_dun_dpl_adb"
        os_desc := true
        idVendor := "0x05C6"
        idProduct := "0x90E9"
        functions := [rndis, diag, qdss, cser_dun_0, dpl, ffs_adb]
        state := some [.rndis, .adb] },
    startAdbd [.diag, .diag_mdm, .adb],
    .composition
      { config := [.diag, .diag_mdm, .adb]
        ffs_ready := true
        configuration := "diag_diag_mdm_adb"
        os_desc := true
        idVendor := "0x05C6"
        idProduct := "0x90D9"
        writes := [(.pid, "0x90d9")]
        functions := [diag, diag_mdm_inst, ffs_adb] },
    startAdbd [.diag, .diag_cnss, .adb],
    .composition
      { config := [.diag, .diag_cnss, .adb]
        ffs_ready := true
        configuration := "diag_diag_cnss_adb"
        os_desc := true
        idVendor := "0x05C6"
        idProduct := "0x90D9"
        writes := [(.pid, "0x90d9")]
        functions := [diag, diag_mdm2, ffs_adb] },
    .composition
      { config := [.diag, .diag_mdm, .diag_mdm2, .qdss, .qdss_mdm, .serial_cdev,
          .dpl, .rmnet]
        ffs_ready := true
        configuration := "diag_diag_mdm_diag_mdm2_qdss_qdss_mdm_dun_dpl_rmnet"
        idVendor := "0x05C6"
        idProduct := "0x90F6"
        writes := [(.pid, "0x90f6")]
        functions := [diag, diag_mdm, diag_mdm2, qdss, qdss_mdm, cser_dun_0, dpl,
          rmnet] },
    startAdbd
      [.diag, .diag_mdm, .diag_mdm2, .qdss, .qdss_mdm, .serial_cdev, .dpl, .rmnet,
       .adb],
    .composition
      { config := [.diag, .diag_mdm, .diag_mdm2, .qdss, .qdss_mdm, .serial_cdev,
          .dpl, .rmnet, .adb]
        ffs_ready := true
        configuration := "diag_diag_mdm_diag_mdm2_qdss_qdss_mdm_dun_dpl_rmnet_adb"
        os_desc := true
        idVendor := "0x05C6"
        idProduct := "0x90F7"
        writes := [(.pid, "0x90f7")]
        functions := [diag, diag_mdm, diag_mdm2, qdss, qdss_mdm, cser_dun_0, dpl,
          rmnet, ffs_adb] },
    .composition
      { config := [.rndis, .diag, .diag_mdm, .diag_mdm2, .qdss, .qdss_mdm,
          .serial_cdev, .dpl]
        ffs_ready := true
        configuration := "rndis_diag_diag_mdm_diag_mdm2_qdss_qdss_mdm_dun_dpl"
        idVendor := "0x05C6"
        idProduct := "0x90F8"
        functions := [rndis, diag, diag_mdm, diag_mdm2, qdss, qdss_mdm,
          cser_dun_0, dpl]
        state := some [.rndis] },
    startAdbd
      [.rndis, .diag, .diag_mdm, .diag_mdm2, .qdss, .qdss_mdm, .serial_cdev, .dpl,
       .adb],
    .composition
      { config := [.rndis, .diag, .diag_mdm, .diag_mdm2, .qdss, .qdss_mdm,
          .serial_cdev, .dpl, .adb]
        ffs_ready := true
        configuration := "rndis_diag_diag_mdm_diag_mdm2_qdss_qdss_mdm_dun_dpl_adb"
        os_desc := true
        idVendor := "0x05C6"
        idProduct := "0x90F9"
        functions := [rndis, diag, diag_mdm, diag_mdm2, qdss, qdss_mdm,
          cser_dun_0, dpl, ffs_adb]
        state := some [.rndis, .adb] },
    .composition
      { config := [.diag, .diag_mdm, .ccid]
        configuration := "diag_diag_mdm_ccid"
        idVendor := "0x05C6"
        idProduct := "0x9045"
        writes := [(.pid, "0x9045")]
        functions := [diag, diag_mdm, ccid_ccid] },
    startAdbd [.diag, .diag_mdm, .adb, .ccid],
    .composition
      { config := [.diag, .diag_mdm, .adb, .ccid]
        ffs_ready := true
        configuration := "diag_diag_mdm_adb_ccid"
        os_desc := true
        idVendor := "0x05C6"
        idProduct := "0x9044"
        writes := [(.pid, "0x9044")]
        functions := [diag, diag_mdm, ffs_adb, ccid_ccid] },
    startAdbd [.diag, .uac1, .adb],
    .composition
      { config := [.diag, .uac1, .adb]
        ffs_ready := true
        configuration := "diag_uac1_adb"
        idVendor := "0x05C6"
        idProduct := "0x9108"
        writes := [(.pid, "0x9108")]
        functions := [diag, uac1_uac1, ffs_adb] },
    .composition
      { config := [.diag, .uac1]
        configuration := "diag_uac1"
        idVendor := "0x05C6"
        idProduct := "0x9109"
        functions := [diag_diag, uac1_uac1] },
    startAdbd [.diag, .diag_cnss, .serial_cdev, .rmnet, .dpl, .qdss, .adb],
    .composition
      { config := [.diag, .diag_cnss, .serial_cdev, .rmnet, .dpl, .qdss, .adb]
        ffs_ready := true
        configuration := "diag_diag_cnss_dun_rmnet_dpl_qdss_adb"
        os_desc := true
        idVendor := "0x05C6"
        idProduct := "0x9110"
        writes := [(.pid, "0x9110")]
        functions := [diag, diag_mdm2, cser_dun_0, rmnet, dpl, qdss, ffs_adb] },
    .composition
      { config := [.diag, .diag_cnss, .serial_cdev, .rmnet, .dpl, .qdss]
        configuration := "diag_diag_cnss_dun_rmnet_dpl_qdss"
        idVendor := "0x05C6"
        idProduct := "0x9111"
        writes := [(.pid, "0x9111")]
        functions := [diag, diag_mdm2, cser_dun_0, rmnet, dpl, qdss] },
    startAdbd [.diag, .uac1, .uvc, .adb],
    .composition
      { config := [.diag, .uac1, .uvc, .adb]
        ffs_ready := true
        configuration := "diag_uac1_uvc_adb"
        idVendor := "0x05C6"
        idProduct := "0x9113"
        writes := [(.pid, "0x9113")]
        functions := [diag, uac1_uac1, uvc, ffs_adb] },
    .composition
      { config := [.diag, .uac1, .uvc]
        configuration := "diag_uac1_uvc"
        idVendor := "0x05C6"
        idProduct := "0x9114"
        functions := [diag_diag, uac1_uac1, uvc] },
    .plain
      { tests :=
          [(.sys_usb_config, some [.adb]), (.sys_usb_configfs, some [.number 1])]
        commands :=
          [.write (.g1 .idVendor) "0x22D9", .write (.g1 .idProduct) "0x2769",
           .link_os_desc] },
    .plain
      { tests :=
          [(.sys_usb_config, some [.mtp]), (.sys_usb_configfs, some [.number 1])]
        commands :=
          [.write (.g1 .idVendor) "0x22D9", .write (.g1 .idProduct) "0x2764",
           .link_os_desc] },
    .plain
      { tests :=
          [(.sys_usb_config, some [.mtp]),
           (.vendor_usb_use_ffs_mtp, some [.number 1]),
           (.sys_usb_configfs, some [.number 1])]
        commands :=
          [.symlink ffs_mtp (.g1 (.function 1)), .link_os_desc] },
    .plain
      { tests :=
          [(.sys_usb_config, some [.mtp, .adb]),
           (.sys_usb_configfs, some [.number 1])]
        commands :=
          [.write (.g1 .idVendor) "0x22D9", .write (.g1 .idProduct) "0x2765"] },
    .plain
      { tests :=
          [(.sys_usb_config, some [.mtp, .adb]),
           (.vendor_usb_use_ffs_mtp, some [.number 1]),
           (.sys_usb_configfs, some [.number 1])]
        commands :=
          [.symlink ffs_mtp (.g1 (.function 1)),
           .symlink ffs_adb (.g1 (.function 2)), .link_os_desc] },
    .plain
      { tests :=
          [(.sys_usb_config, some [.ptp]), (.sys_usb_configfs, some [.number 1])]
        commands :=
          [.write (.g1 .idVendor) "0x22D9", .write (.g1 .idProduct) "0x2771",
           .link_os_desc] },
    .plain
      { tests :=
          [(.sys_usb_config, some [.ptp]),
           (.vendor_usb_use_ffs_mtp, some [.number 1]),
           (.sys_usb_configfs, some [.number 1])]
        commands :=
          [.symlink ffs_ptp (.g1 (.function 1)), .link_os_desc] },
    .plain
      { tests :=
          [(.sys_usb_config, some [.ptp, .adb]),
           (.sys_usb_configfs, some [.number 1])]
        commands :=
          [.write (.g1 .idVendor) "0x22D9", .write (.g1 .idProduct) "0x2772",
           .link_os_desc] },
    .plain
      { tests :=
          [(.sys_usb_config, some [.ptp, .adb]),
           (.vendor_usb_use_ffs_mtp, some [.number 1]),
           (.sys_usb_configfs, some [.number 1])]
        commands :=
          [.symlink ffs_ptp (.g1 (.function 1)),
           .symlink ffs_adb (.g1 (.function 2)), .link_os_desc] },
    .plain
      { tests :=
          [(.sys_usb_config, some [.accessory]),
           (.sys_usb_configfs, some [.number 1])]
        commands :=
          [.write (.g1 .idVendor) "0x18d1", .write (.g1 .idProduct) "0x2d00"] },
    .plain
      { tests :=
          [(.sys_usb_config, some [.accessory, .adb]),
           (.sys_usb_configfs, some [.number 1])]
        commands :=
          [.write (.g1 .idVendor) "0x18d1", .write (.g1 .idProduct) "0x2d01",
           .link_os_desc] },
    .plain
      { tests :=
          [(.sys_usb_config, some [.audio_source]),
           (.sys_usb_configfs, some [.number 1])]
        commands :=
          [.write (.g1 .idVendor) "0x18d1", .write (.g1 .idProduct) "0x2d02"] },
    .plain
      { tests :=
          [(.sys_usb_config, some [.audio_source, .adb]),
           (.sys_usb_configfs, some [.number 1])]
        commands :=
          [.write (.g1 .idVendor) "0x18d1", .write (.g1 .idProduct) "0x2d03",
           .link_os_desc] },
    .plain
      { tests :=
          [(.sys_usb_config, some [.accessory, .audio_source]),
           (.sys_usb_configfs, some [.number 1])]
        commands :=
          [.write (.g1 .idVendor) "0x18d1", .write (.g1 .idProduct) "0x2d04"] },
    .plain
      { tests :=
          [(.sys_usb_config, some [.accessory, .audio_source, .adb]),
           (.sys_usb_configfs, some [.number 1])]
        commands :=
          [.write (.g1 .idVendor) "0x18d1", .write (.g1 .idProduct) "0x2d05",
           .link_os_desc] },
    .plain
      { tests :=
          [(.sys_usb_config, some [.midi]), (.sys_usb_configfs, some [.number 1])]
        commands :=
          [.write (.g1 .idVendor) "0x18d1", .write (.g1 .idProduct) "0x4ee8"] },
    .plain
      { tests :=
          [(.sys_usb_config, some [.midi, .adb]),
           (.sys_usb_configfs, some [.number 1])]
        commands :=
          [.write (.g1 .idVendor) "0x18d1", .write (.g1 .idProduct) "0x4ee9",
           .link_os_desc] },
    .plain
      { tests :=
          [(.sys_usb_config, some [.rndis]),
           (.sys_usb_configfs, some [.number 1])]
        commands :=
          [.write (.g1 .idVendor) "0x05C6", .write (.g1 .idProduct) "0xF00E"] },
    .plain
      { tests :=
          [(.sys_usb_config, some [.rndis, .adb]),
           (.sys_usb_configfs, some [.number 1])]
        commands :=
          [.write (.g1 .idVendor) "0x05C6", .write (.g1 .idProduct) "0x9024",
           .link_os_desc] },
    .plain
      { tests :=
          [(.vendor_usb_eud, some [.number 1])]
        commands :=
          [.write (.g1 .MaxPower) "1",
           .write (.file "/sys/module/eud/parameters/enable") "1",
           .write (.file "/sys/kernel/debug/pmic-votable/USB_ICL/force_active")
             "1",
           .write (.file "/sys/kernel/debug/pmic-votable/USB_ICL/force_val")
             "500"] },
    .plain
      { tests :=
          [(.vendor_usb_eud, some [.number 0])]
        commands :=
          [.write (.file "/sys/kernel/debug/pmic-votable/USB_ICL/force_active")
             "0",
           .write (.file "/sys/kernel/debug/pmic-votable/USB_ICL/force_val")
             "0",
           .write (.g1 .MaxPower) "0",
           .write (.file "/sys/module/eud/parameters/enable") "0"] }
  ]

def usbActions : List UsbAction :=
  init_qcom_usb_rc.map UsbEntry.action

end Samurai
