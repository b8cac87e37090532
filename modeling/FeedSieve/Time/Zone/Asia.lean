import FeedSieve.Time.Zone.Source

/-!
# Zones of Asia

One row per zone, in the notation of `FeedSieve.Time.Zone.Source`.
-/
namespace FeedSieve.Time.Zone

def asia : List Source := [
  ⟨"Asia/Almaty", 18468,
    [⟨18000, false⟩, ⟨21600, false⟩, ⟨25200, true⟩, ⟨21600, true⟩],
    [0x0e9dbbc5c000b8a7354105f838e702000f134701000efff102000f134701000efff102000f134701000f150902,
     0x000f00d201000eff1002000eff1001000eff1002000eff1001000eff1002000eff1001000eff1002000eff1001,
     0x000eff1002000eff1001000eff1002000f92b801000eff1003000efff10000093a80010005c3af02000eff1001,
     0x000eff1002000eff1001000eff1002000eff1001000eff1002000eff1001000f92b80200114db001000cb07002,
     0x00114db001000cb0700200114db001000cb070020011e15801000c1cc8020011e15801000c1cc8020011e15801,
     0x000cb0700200114db001000cb0700200114db001000cb070020011e158010245cd3600],
    none⟩,
  ⟨"Asia/Amman", 8624,
    [⟨7200, false⟩, ⟨10800, true⟩, ⟨10800, false⟩],
    [0x0f6661750004fcea31010009a31700001178c101000c9a7700001178c101000c9a770000118dd901000f285f00,
     0x000eead901000c9a7700001163a901000c9a770000c3b28901000f134700000f3f3901000efe2f00000efff101,
     0x000efe2f00000efff101000f91d70000118dd901000c7047000010bae901000d433700000ffd1101000d6d6700,
     0x0010274101000e6a8700000efff101000efe2f00000efff101000dd6df000010bae901000d4418000010ba0801,
     0x000dd7c0000010266001000dd7c0000010266001000dd7c000001790d001000700f800000f7da001000f142800,
     0x000ee9f801000f142800000eff1001000eff1000000eff100100114db000000cb070010010ba0800000dd7c001,
     0x000eff1000000eff100100114db000000cb0700100114db000000cb070010011e15800000c1cc8010011e15800,
     0x000c1cc8010011e15800000cb0700100114db000000cb070010033e82f0000081411010011e15800000c1cc801,
     0x0011e15800000cb0700100114db000000cb0700100114db000000cb0700100114db000000cb0700100114db000,
     0x000cb070010011e15800000c1cc8010011e158000009ce280100142ff802],
    none⟩,
  ⟨"Asia/Anadyr", 42596,
    [⟨43200, false⟩, ⟨46800, false⟩, ⟨50400, true⟩, ⟨46800, true⟩, ⟨43200, true⟩, ⟨39600, false⟩],
    [0x0e9db5e1c000b8a6f24105f838e702000f134701000efff103000f142800000efff103000f134700000f150903,
     0x000f00d200000eff1003000eff1000000eff1003000eff1000000eff1003000eff1000000eff1003000eff1000,
     0x000eff1003000eff1000000eff1003000f92b800000eff1004000efff10500093a80000005c3af03000eff1000,
     0x000eff1003000eff1000000eff1003000eff1000000eff1003000eff1000000f92b80300114db000000cb07003,
     0x00114db000000cb0700300114db000000cb070030011e15800000c1cc8030011e15800000c1cc8030011e15800,
     0x000cb0700300114db000000cb0700300114db000000cb070030011e15800000c1cc8030011e15800000c1cc803,
     0x0011e15800000c1cc8030011e15800000cb0700300114db000000cb0700300114db000000cb070040011e23905,
     0x000c1cc800],
    none⟩,
  ⟨"Asia/Aqtau", 12064,
    [⟨14400, false⟩, ⟨18000, false⟩, ⟨21600, false⟩, ⟨21600, true⟩, ⟨18000, true⟩],
    [0x0e9dbd560000b8a6860106074d0f02000efe2f03000f142801000efff103000f134701000f150903000f00d201,
     0x000eff1003000eff1001000eff1003000eff1001000eff1003000eff1001000eff1003000eff1001000eff1003,
     0x000eff1001000eff1003000f92b801000eff1004000efff10000093a80010005c3af03000eff1001000eff1003,
     0x000eff1001000eff1003000eff1000000efff104000eff1000000f92b80400114db000000cb0700400114db000,
     0x000cb0700400114db000000cb070040011e15800000c1cc8040011e15800000c1cc8040011e15800000cb07004,
     0x00114db000000cb0700400114db000000cb070040011e15801],
    none⟩,
  ⟨"Asia/Aqtobe", 13720,
    [⟨14400, false⟩, ⟨18000, false⟩, ⟨21600, true⟩, ⟨21600, false⟩, ⟨18000, true⟩],
    [0x0e9dbcee8000b8a6ed8105f838e702000f134703000eff1002000f142801000efff102000f134701000f150902,
     0x000f00d201000eff1002000eff1001000eff1002000eff1001000eff1002000eff1001000eff1002000eff1001,
     0x000eff1002000eff1001000eff1002000f92b801000eff1004000efff10000093a80010005c3af02000eff1001,
     0x000eff1002000eff1001000eff1002000eff1001000eff1002000eff1001000f92b80200114db001000cb07002,
     0x00114db001000cb0700200114db001000cb070020011e15801000c1cc8020011e15801000c1cc8020011e15801,
     0x000cb0700200114db001000cb0700200114db001000cb070020011e15801],
    none⟩,
  ⟨"Asia/Ashgabat", 14012,
    [⟨14400, false⟩, ⟨18000, false⟩, ⟨21600, true⟩, ⟨18000, true⟩],
    [0x0e9dbcdc4000b8a6ffc105f838e702000f134701000efff102000f134701000efff102000f134701000f150902,
     0x000f00d201000eff1002000eff1001000eff1002000eff1001000eff1002000eff1001000eff1002000eff1001,
     0x000eff1002000eff1001000eff1002000f92b801000eff1003000efff10000093a8001],
    none⟩,
  ⟨"Asia/Atyrau", 12464,
    [⟨10800, false⟩, ⟨18000, false⟩, ⟨21600, false⟩, ⟨21600, true⟩, ⟨18000, true⟩, ⟨14400, false⟩],
    [0x0e9dbd3d0000b8a7800106074c2e02000efe2f03000f142801000efff103000f134701000f150903000f00d201,
     0x000eff1003000eff1001000eff1003000eff1001000eff1003000eff1001000eff1003000eff1001000eff1003,
     0x000eff1001000eff1003000f92b801000eff1004000efff10500093a80010005c3af03000eff1001000eff1003,
     0x000eff1001000eff1003000eff1001000eff1003000eff1001000f92b80300114db001000cb0700300114db001,
     0x000cb0700300114db001000cb070040011e23905000c1cc8040011e15805000c1cc8040011e15805000cb07004,
     0x00114db005000cb0700400114db005000cb070040011e15801],
    none⟩,
  ⟨"Asia/Baghdad", 10660,
    [⟨10656, false⟩, ⟨10800, false⟩, ⟨14400, true⟩],
    [0x0a948f25c0034a98b041079002b702000c9a7701000eead902000f285f01000f150902000f134701000efff102,
     0x000eead901000eff1002000eff1001000eff1002000eff1001000eff1002000eff1001000eff1002000eff1001,
     0x000eff1002000f92b801000f15ea02000f142801000f142802000f142801000eff1002000f142801000eff1002,
     0x000f142801000eff1002000f142801000f142802000f142801000eff1002000f142801000eff1002000f142801,
     0x000eff1002000f142801000f142802000f142801000eff1002000f142801000eff1002000f142801000eff1002,
     0x000f142801000f142802000f142801000eff1002000f142801000eff1002000f142801000eff1002000f142801],
    none⟩,
  ⟨"Asia/Baku", 11964,
    [⟨10800, false⟩, ⟨14400, false⟩, ⟨18000, true⟩, ⟨14400, true⟩],
    [0x0e9dbd5c4003dc0770c102d4d8d702000f134701000efff102000f134701000efff102000f134701000f150902,
     0x000f00d201000eff1002000eff1001000eff1002000eff1001000eff1002000eff1001000eff1002000eff1001,
     0x000eff1002000eff1001000eff1002000f92b801000eff1003000efff100000eff1003000eff100100698eda02,
     0x00114db001000caf8f0200114db001000cb0700200114db001000cb070020011e15801000c1cc8020011e15801,
     0x000c1cc8020011e15801000cb0700200114db001000cb0700200114db001000cb070020011e15801000c1cc802,
     0x0011e15801000c1cc8020011e15801000c1cc8020011e15801000cb0700200114db001000cb0700200114db001,
     0x000cb070020011e15801000c1cc8020011e15801000c1cc8020011e15801000cb0700200114db001000cb07002,
     0x00114db001000cb0700200114db001],
    none⟩,
  ⟨"Asia/Bangkok", 24124,
    [⟨25200, false⟩],
    [0x0e22ca8440],
    none⟩,
  ⟨"Asia/Barnaul", 20100,
    [⟨21600, false⟩, ⟨25200, false⟩, ⟨28800, true⟩, ⟨25200, true⟩],
    [0x0e197be7c0013ce6324105f838e702000f134701000efff102000f134701000efff102000f134701000f150902,
     0x000f00d201000eff1002000eff1001000eff1002000eff1001000eff1002000eff1001000eff1002000eff1001,
     0x000eff1002000eff1001000eff1002000f92b801000eff1003000efff10000093a80010005c3af02000eff1001,
     0x000eff1002000eff1001000eff1002000eff1001000eff100200052e45030009d1ac00000f92b80300114db000,
     0x000cb0700300114db000000cb0700300114db000000cb070030011e15800000c1cc8030011e15800000c1cc803,
     0x0011e15800000cb0700300114db000000cb0700300114db000000cb070030011e15800000c1cc8030011e15800,
     0x000c1cc8030011e15800000c1cc8030011e15800000cb0700300114db000000cb0700300114db000000cb07003,
     0x0011e15800000c1cc801006bdad700002aaf7101],
    none⟩,
  ⟨"Asia/Beirut", 8520,
    [⟨7200, false⟩, ⟨10800, true⟩],
    [0x096790338004baea1281001161e700000d2fe101000f134700000e5731010010257f000010274101000c1be700,
     0x03f3ed3901000c9a7700001178c101000c9a7700001178c101000c9a770000118dd901000c9a7700001178c101,
     0x000c9a77000142c119010008519700001178c101000c9a7700001178c101000c9a7700001178c101000c9a7700,
     0x00118dd901000c9a7700001178c101000c9a7700001163a901000c9a770000a8182101000dd6df0000103c5901,
     0x000dd6df0000103c5901000dd6df0000103c5901000dd6df000012df5901000b48f7000010fa3101000d190700,
     0x00103c5901000dd6df0000103c5901000dd6df000010517101000cd9bf00000e6c4901000efe2f00000efff101,
     0x000efe2f00000efff101000efe2f00000f939901000efe2f00000efff101000efe2f00000efff101000efe2f00,
     0x000efff101],
    some ⟨⟨7200, false⟩, ⟨10800, true⟩, ⟨3, 5, 0, 0⟩, ⟨10, 5, 0, 0⟩⟩⟩,
  ⟨"Asia/Bishkek", 17904,
    [⟨18000, false⟩, ⟨21600, false⟩, ⟨25200, true⟩, ⟨21600, true⟩],
    [0x0e9dbbe90000b8a7120105f838e702000f134701000efff102000f134701000efff102000f134701000f150902,
     0x000f00d201000eff1002000eff1001000eff1002000eff1001000eff1002000eff1001000eff1002000eff1001,
     0x000eff1002000eff1001000eff1002000f92b801000eff1003000c9b58000012893703000dd6df000010274103,
     0x000dd6df000010274103000dd6df000010274103000dd6df000010274103000e6a8700000f02238300114ccf00,
     0x000cb1510300114ccf00000cb151030011e07700000c1da9030011e07700000c1da9030011e07700000cb15103,
     0x00114ccf00000cb1510300114ccf00000cb151030011e07700000c1da903000b5bdc81],
    none⟩,
  ⟨"Asia/Chita", 27232,
    [⟨28800, false⟩, ⟨32400, false⟩, ⟨36000, true⟩, ⟨32400, true⟩, ⟨36000, false⟩],
    [0x0e19e3a200013c7cb60105f838e702000f134701000efff102000f134701000efff102000f134701000f150902,
     0x000f00d201000eff1002000eff1001000eff1002000eff1001000eff1002000eff1001000eff1002000eff1001,
     0x000eff1002000eff1001000eff1002000f92b801000eff1003000efff10000093a80010005c3af02000eff1001,
     0x000eff1002000eff1001000eff1002000eff1001000eff1002000eff1001000f92b80200114db001000cb07002,
     0x00114db001000cb0700200114db001000cb070020011e15801000c1cc8020011e15801000c1cc8020011e15801,
     0x000cb0700200114db001000cb0700200114db001000cb070020011e15801000c1cc8020011e15801000c1cc802,
     0x0011e15801000c1cc8020011e15801000cb0700200114db001000cb0700200114db001000cb070020011e15801,
     0x000c1cc804006bdad700002ab05201],
    none⟩,
  ⟨"Asia/Colombo", 19164,
    [⟨19172, false⟩, ⟨19800, false⟩, ⟨21600, true⟩, ⟨23400, true⟩, ⟨23400, false⟩, ⟨21600, false⟩],
    [0x09678d9a40030e723f81043bc5f0c20013b0f783005e05498105f307ff04000cafff85011ceea081],
    none⟩,
  ⟨"Asia/Damascus", 8712,
    [⟨7200, false⟩, ⟨10800, true⟩, ⟨10800, false⟩],
    [0x0e1b4ebf800008e84081000dd6df000010274101000dd6df000010274101000dd6df000010274101000e6a8700,
     0x04887d4101000cc4a700001178c101000c855f000011a2f101000c9a7700001178c101000c855f000010fa3101,
     0x000d2e1f00001178c101000c9a770000118dd901000c9a7700001178c101000c9a7700001178c101000c9a7700,
     0x001178c101000c9a770000118dd901000c9a7700001178c101000c9a7700001178c101000c9a7700001178c101,
     0x000c9a770000118dd901000c9a7700001178c101000a21a7000013f19101000a21a700008a837901000e6a8700,
     0x000fbdc901000e6a8700002973090100135c2700000bc94901001419ff00000b35a1010012f2af00000c720901,
     0x000f285f00000efff101000efe2f00000f134701000f134700000fa8b101000e7f9f00000e816101000f134700,
     0x000f7e8101000f134700000efff101000f134700000f150901000f134700000eead901000f285f00000ed5c101,
     0x000f3d7700000efff101000f134700000f150901000f134700000efff101000f134700000efff101000f134700,
     0x000efff101000f134700000f150901000f134700000efff101000f134700000efff101000e556f00000f939901,
     0x0011e07700000cb15101001161e700000c0891010011e07700000cb1510100114ccf00000cb1510100114ccf00,
     0x000cb1510100114ccf00000cb1510100114ccf00000cb151010011e07700000c1da9010011e07700000c1da901,
     0x0011e07700000cb1510100114ccf00000cb1510100114ccf00000cb1510100114ccf00000cb151010011e07700,
     0x000c1da9010011e07700000c1da9010011e07702],
    none⟩,
  ⟨"Asia/Dhaka", 21700,
    [⟨21200, false⟩, ⟨23400, false⟩, ⟨19800, false⟩, ⟨21600, false⟩, ⟨25200, true⟩],
    [0x0a948c73c006154fff4100129ea6820008fc1901011139ff0306c92f17840010114803],
    none⟩,
  ⟨"Asia/Dili", 30140,
    [⟨28800, false⟩, ⟨32400, false⟩],
    [0x0d2a85e800038b314f0104050fd80002dd968901],
    none⟩,
  ⟨"Asia/Dubai", 13272,
    [⟨14400, false⟩],
    [0x0e1b4da280],
    none⟩,
  ⟨"Asia/Dushanbe", 16512,
    [⟨18000, false⟩, ⟨21600, false⟩, ⟨25200, true⟩, ⟨21600, true⟩],
    [0x0e9dbc400000b8a6bb0105f838e702000f134701000efff102000f134701000efff102000f134701000f150902,
     0x000f00d201000eff1002000eff1001000eff1002000eff1001000eff1002000eff1001000eff1002000eff1001,
     0x000eff1002000eff1001000eff1002000f92b801000eff1003000d5a1100],
    none⟩,
  ⟨"Asia/Famagusta", 8148,
    [⟨7200, false⟩, ⟨10800, true⟩, ⟨10800, false⟩],
    [0x0e5395eac00647691b41000efe2f000011cd2101000c461700000e573101000e6a8700000f939901000f134700,
     0x000eead901000efe2f00000f939901000e6a8700000efff101000efe2f00000efff101000efe2f00000efff101,
     0x000efe2f00000efff101000f91d700000efff101000efe2f00000efff101000efe2f00000efff101000efe2f00,
     0x000efff101000efe2f00000efff101000efe2f00000efff101000f91d700000efff101000efe2f00000efff101,
     0x000efe2f00000efff101000efe2f00000efff101000efe2f00000efff101000efe2f00000f939901000efe2f00,
     0x000efff101000efe2f00000efff1010011505300000cb070010011e15800000c1cc8010011e15800000c1cc801,
     0x0011e15800000cb0700100114db000000cb0700100114db000000cb070010011e15800000c1cc8010011e15800,
     0x000c1cc8010011e15800000c1cc8010011e15800000cb0700100114db000000cb0700100114db000000cb07001,
     0x0011e15800000c1cc8010011e15800000c1cc8010011e15800000cb0700100114db000000cb0700100114db000,
     0x000cb0700100114db000000cb07001000d94f40200224a8400],
    some ⟨⟨7200, false⟩, ⟨10800, true⟩, ⟨3, 5, 0, 10800⟩, ⟨10, 5, 0, 14400⟩⟩⟩,
  ⟨"Asia/Gaza", 8272,
    [⟨7200, false⟩, ⟨10800, true⟩],
    [0x0bd7f8b30004a9c84501000a0d70000003df6801003ad4f000000c7128010011a21000000c8640010011a21000,
     0x000dad9001001065a800000dad9001001065a800013ca58601000bdc9f00001178c101000c9a7700001179a201,
     0x000c8721000011a12f01000c87210000118c1701000c87210000118c1701000c87210000118c1701000c872100,
     0x0011a12f01000c87210000118c1701000c87210000118c1701000c9c3900001176ff010002e0860000d5549901,
     0x0008124f00000f939901000af4970000943c8901000375f000006d96b00100093a8000001308a801000b883f00,
     0x00155829010009399f000012218101000c70470000114e9101000c1be70000139d3101000a60ef000010bae901,
     0x000caf8f0000114e9101000d43370000114e9101000d4337000011246101000cd9bf000011246101000c461700,
     0x0011b80901000cd9bf000011b80901000dd7c0000010266001000dd7c0000010266001000dd7c00000114db001,
     0x000efe2f00000f939901000efe2f00000efff101000efe2f00000efff101000efe2f00000efff101000efe2f00,
     0x000efff101000dd7c0000010266001000e2d0100000ebee701000e556f00000fbdc901000d99590000103a9701,
     0x000caf8f0000114e9101000d4418000010cf23c1000b48f340001333bcc1000a0c8b400013f19101000e6b6800,
     0x000f92b801000efe2f00000efff10100114ccf00000cc669010011389800000cc669010011e07700000c1da901,
     0x0011e07700000c1da9010011e07700000c9b5801001161e700000cb1510100114db000000cb070010011cc4000,
     0x000c46f8010011cd2100000efff101000efe2f00000e6c4901000f91d700000dd8a1010010257f00000cb15101,
     0x00114ccf00000cb151010011e07700000c1da9010011e07700000c1da9010011e07700000cb1510100114ccf00,
     0x000cb1510100114ccf00000cb151010011e07700000c1da9010011e07700000c1da9010011e07700000c1da901,
     0x0011e07700000cb151010010b92700000d44f9010010257f00000dd8a101000efe2f00000efff101000e6a8700,
     0x000f939901000d43370000040a7901000092c700000cb15101000c1be700000376d1010001ba1700000cb15101,
     0x000b883f00000376d10100024dbf00000cb15101000a60ef0000040a79010002e16700000cb151010009cd4700,
     0x000376d10100049c5f00000c1da9010009399f00000376d1010005300700000c1da9010008124f0000040a7901,
     0x0005c3af00000cb151010006eaff00000376d1010006eaff00000cb151010005c3af0000040a790100077ea700,
     0x000cb151010005300700000376d1010009399f00000c1da90100049c5f00000376d1010009cd4700000c1da901,
     0x0003750f0000040a7901000a60ef00000cb1510100024dbf00000376d101000b883f00000cb151010001266f00,
     0x00040a7901000c1be700000cb15101000092c70000040a7901000caf8f000010274101000e6a8700000efff101,
     0x000efe2f00000dd8a1010010257f00000d44f9010010b92700000cb1510100114ccf00000cb151010011e07700,
     0x000c1da9010011e07700000c1da9010011e07700000c1da9010011e07700000cb1510100114ccf00000cb15101,
     0x00114ccf00000cb151010011e07700000c1da9010011e07700000c1da90100114ccf00000d44f9010010257f00,
     0x000dd8a101000f91d700000e6c4901000e6a8700000f939901000dd6df00000376d101000092c700000c1da901,
     0x000d433700000376d1010001266f00000c1da901000c1be70000040a79010001ba1700000cb15101000af49700,
     0x000376d1010002e16700000cb151010009cd470000040a79010003750f00000cb151010009399f0000040a7901,
     0x00049c5f00000c1da9010008a5f700000376d1010005c3af00000c1da90100077ea70000040a79010006575700,
     0x000cb151010006575700000376d10100077ea700000cb151010005c3af00000376d1010008124f00000cb15101,
     0x00049c5f0000040a79010008a5f700000cb15101000408b700000376d101000a60ef00000c1da9010002e16700,
     0x00040a7901000af49700000c1da90100024dbf0000040a7901000b883f00000cb151010001266f00000376d101,
     0x000caf8f00],
    some ⟨⟨7200, false⟩, ⟨10800, true⟩, ⟨3, 4, 4, 180000⟩, ⟨10, 4, 4, 180000⟩⟩⟩,
  ⟨"Asia/Hebron", 8423,
    [⟨7200, false⟩, ⟨10800, true⟩],
    [0x0bd7f8a99004a9c84e71000a0d70000003df6801003ad4f000000c7128010011a21000000c8640010011a21000,
     0x000dad9001001065a800000dad9001001065a800013ca58601000bdc9f00001178c101000c9a7700001179a201,
     0x000c8721000011a12f01000c87210000118c1701000c87210000118c1701000c87210000118c1701000c872100,
     0x0011a12f01000c87210000118c1701000c87210000118c1701000c9c3900001176ff010002e0860000d5549901,
     0x0008124f00000f939901000af4970000943c8901000375f000006d96b00100093a8000001308a801000b883f00,
     0x00155829010009399f000012218101000c70470000114e9101000c1be70000139d3101000a60ef000010bae901,
     0x000caf8f0000114e9101000d43370000114e9101000d4337000011246101000cd9bf000011246101000c461700,
     0x0011b80901000cd9bf000011b80901000dd7c0000010266001000dd7c0000010266001000dd7c00000114db001,
     0x000efe2f00000f939901000efe2f00000efff101000efe2f00000efff101000efe2f00000efff101000efe2f00,
     0x000efff101000dd7c0000010266001000e2d0100000ebee701000e556f00000fbdc901000d99590000103a9701,
     0x000ceed70000110f4901000d4418000010ba0801000b5e0f00001333bcc1000a0c8b40000264990100028d0700,
     0x000efff101000e6b6800000f92b801000efe2f00000efff10100114ccf00000cc669010011389800000cc66901,
     0x0011e07700000c1da9010011e07700000c1da9010011e07700000c9b5801001161e700000cb1510100114db000,
     0x000cb070010011cc4000000c46f8010011cd2100000efff101000efe2f00000e6c4901000f91d700000dd8a101,
     0x0010257f00000cb1510100114ccf00000cb151010011e07700000c1da9010011e07700000c1da9010011e07700,
     0x000cb1510100114ccf00000cb1510100114ccf00000cb151010011e07700000c1da9010011e07700000c1da901,
     0x0011e07700000c1da9010011e07700000cb151010010b92700000d44f9010010257f00000dd8a101000efe2f00,
     0x000efff101000e6a8700000f939901000d43370000040a7901000092c700000cb15101000c1be700000376d101,
     0x0001ba1700000cb15101000b883f00000376d10100024dbf00000cb15101000a60ef0000040a79010002e16700,
     0x000cb151010009cd4700000376d10100049c5f00000c1da9010009399f00000376d1010005300700000c1da901,
     0x0008124f0000040a79010005c3af00000cb151010006eaff00000376d1010006eaff00000cb151010005c3af00,
     0x00040a790100077ea700000cb151010005300700000376d1010009399f00000c1da90100049c5f00000376d101,
     0x0009cd4700000c1da9010003750f0000040a7901000a60ef00000cb1510100024dbf00000376d101000b883f00,
     0x000cb151010001266f0000040a7901000c1be700000cb15101000092c70000040a7901000caf8f000010274101,
     0x000e6a8700000efff101000efe2f00000dd8a1010010257f00000d44f9010010b92700000cb1510100114ccf00,
     0x000cb151010011e07700000c1da9010011e07700000c1da9010011e07700000c1da9010011e07700000cb15101,
     0x00114ccf00000cb1510100114ccf00000cb151010011e07700000c1da9010011e07700000c1da90100114ccf00,
     0x000d44f9010010257f00000dd8a101000f91d700000e6c4901000e6a8700000f939901000dd6df00000376d101,
     0x000092c700000c1da901000d433700000376d1010001266f00000c1da901000c1be70000040a79010001ba1700,
     0x000cb15101000af49700000376d1010002e16700000cb151010009cd470000040a79010003750f00000cb15101,
     0x0009399f0000040a790100049c5f00000c1da9010008a5f700000376d1010005c3af00000c1da90100077ea700,
     0x00040a79010006575700000cb151010006575700000376d10100077ea700000cb151010005c3af00000376d101,
     0x0008124f00000cb1510100049c5f0000040a79010008a5f700000cb15101000408b700000376d101000a60ef00,
     0x000c1da9010002e1670000040a7901000af49700000c1da90100024dbf0000040a7901000b883f00000cb15101,
     0x0001266f00000376d101000caf8f00],
    some ⟨⟨7200, false⟩, ⟨10800, true⟩, ⟨3, 4, 4, 180000⟩, ⟨10, 4, 4, 180000⟩⟩⟩,
  ⟨"Asia/Ho_Chi_Minh", 25590,
    [⟨25200, false⟩, ⟨28800, false⟩, ⟨32400, false⟩],
    [0x0d1656b8a003b92bb76100423e7f02000e170800002f77c20100f843780000878a570101d0e2f000],
    none⟩,
  ⟨"Asia/Hong_Kong", 27402,
    [⟨28800, false⟩, ⟨32400, true⟩, ⟨30600, true⟩, ⟨32400, false⟩],
    [0x0c52ba4100044e3cda010008e620020006fde483007556d180000caf8f010012781380000af57801001308a800,
     0x000cb07001000eff1000000cb0700100114db000000cb0700100114db000000cb0700100114db000000d441801,
     0x00114db000000cb0700100114ccf00000b8a01010012741f00000b8a0101001307c700000af65901001307c700,
     0x000b8a01010012741f00000b8a01010012741f00000b8a01010012741f00000b8a0101001307c700000af65901,
     0x001307c700000af65901001307c700000b8a01010012741f00000b8a01010012741f00000dd8a101000efe2f00,
     0x000efff101000efe2f00000efff101000f91d700000efff101000efe2f00000efff101000efe2f00000efff101,
     0x000efe2f00000efff101000efe2f00000efff101000f91d700000efff101000efe2f000005c57101001838af00,
     0x000efff101000efe2f00000efff101000efe2f00004d4ad101000d433700],
    none⟩,
  ⟨"Asia/Hovd", 21996,
    [⟨21600, false⟩, ⟨25200, false⟩, ⟨28800, true⟩],
    [0x0c6963d14008837ee0c1009ddebf02000f134701000f150902000efe2f01000efff102000efe2f01000efff102,
     0x000efe2f01000efff102000efe2f01000efff102000efe2f01000efff102000efe2f01000efff102000f91d701,
     0x000efff102000efe2f01000efff102000efe2f01000efff102000efe2f01000efff102000efe2f01000efff102,
     0x000efe2f01000f939902000efe2f01000efff102000efe2f01000efff102000efe2f01004dcb2302000caf8f01,
     0x000efff102000efe2f01000efff102000efe2f01000efff102000efe2f01000efff102000efe2f01000efff102,
     0x000f91d70100ff849902000efc6d01000f01b302000efc6d01],
    none⟩,
  ⟨"Asia/Irkutsk", 25025,
    [⟨25200, false⟩, ⟨28800, false⟩, ⟨32400, true⟩, ⟨28800, true⟩, ⟨32400, false⟩],
    [0x0e1d4503f001391c351105f838e702000f134701000efff102000f134701000efff102000f134701000f150902,
     0x000f00d201000eff1002000eff1001000eff1002000eff1001000eff1002000eff1001000eff1002000eff1001,
     0x000eff1002000eff1001000eff1002000f92b801000eff1003000efff10000093a80010005c3af02000eff1001,
     0x000eff1002000eff1001000eff1002000eff1001000eff1002000eff1001000f92b80200114db001000cb07002,
     0x00114db001000cb0700200114db001000cb070020011e15801000c1cc8020011e15801000c1cc8020011e15801,
     0x000cb0700200114db001000cb0700200114db001000cb070020011e15801000c1cc8020011e15801000c1cc802,
     0x0011e15801000c1cc8020011e15801000cb0700200114db001000cb0700200114db001000cb070020011e15801,
     0x000c1cc804006bdad701],
    none⟩,
  ⟨"Asia/Jakarta", 25632,
    [⟨26400, false⟩, ⟨27000, false⟩, ⟨32400, false⟩, ⟨28800, false⟩, ⟨25200, false⟩],
    [0x0e93ac66000109e58801011a8a5282006976ae81004e5d7983003c25ff81019b698884],
    none⟩,
  ⟨"Asia/Jayapura", 33768,
    [⟨32400, false⟩, ⟨34200, false⟩],
    [0x0f9d90218001641f85810245ce8780],
    none⟩,
  ⟨"Asia/Jerusalem", 8454,
    [⟨8440, false⟩, ⟨7200, false⟩, ⟨10800, true⟩, ⟨14400, true⟩],
    [0x09679037a004779828e102a2989782000a0d70010003df6802003ad4f001000c7128020011a21001000c864002,
     0x0011a21001000dad9002001065a801000dad9002001065a801002ee258030008527802000506b801000ee9f802,
     0x000f294001000dad9002000c86400100105090020012750001000d441802000eff1001000e6b6802000cb07001,
     0x00167e980200077f880100167e980200077f88010015eaf0020009ce280100114db002000c1cc80101f9411e02,
     0x0008124f01000f939902000af4970100943c8902000375f001006d96b00200093a8001001308a802000b883f01,
     0x00155829020009399f010012218102000c70470100114e9102000c1be70100139d3102000a60ef010010bae902,
     0x000caf8f0100114e9102000d43370100114e9102000d4337010011246102000cd9bf010011246102000c461701,
     0x0011b80902000cd9bf01000ffd1102000f3d7701000f545102000e94b701000f696902000e010f010011262302,
     0x000caf8f01001275e102000e69a601000f3f3902000dd6df01000f545102000fd11f01000e2d0102000f91d701,
     0x000f696902000dd6df01000fbeaa02000fbc0701000e421902000f285f01000ed5c102000e010f01000ffd1102,
     0x000fbc0701000e421902000f285f01000ed5c102000e010f01001090b902000f285f01000ed5c102000e94b701,
     0x000f696902],
    some ⟨⟨7200, false⟩, ⟨10800, true⟩, ⟨3, 4, 4, 93600⟩, ⟨10, 5, 0, 7200⟩⟩⟩,
  ⟨"Asia/Kabul", 16608,
    [⟨14400, false⟩, ⟨16200, false⟩],
    [0x0a948db200067733ca01],
    none⟩,
  ⟨"Asia/Kamchatka", 38076,
    [⟨39600, false⟩, ⟨43200, false⟩, ⟨46800, true⟩, ⟨43200, true⟩],
    [0x0e714d744000e51040c105f838e702000f134701000efff102000f134701000efff102000f134701000f150902,
     0x000f00d201000eff1002000eff1001000eff1002000eff1001000eff1002000eff1001000eff1002000eff1001,
     0x000eff1002000eff1001000eff1002000f92b801000eff1003000efff10000093a80010005c3af02000eff1001,
     0x000eff1002000eff1001000eff1002000eff1001000eff1002000eff1001000f92b80200114db001000cb07002,
     0x00114db001000cb0700200114db001000cb070020011e15801000c1cc8020011e15801000c1cc8020011e15801,
     0x000cb0700200114db001000cb0700200114db001000cb070020011e15801000c1cc8020011e15801000c1cc802,
     0x0011e15801000c1cc8020011e15801000cb0700200114db001000cb0700200114db001000cb070030011e23900,
     0x000c1cc801],
    none⟩,
  ⟨"Asia/Karachi", 16092,
    [⟨19800, false⟩, ⟨23400, true⟩, ⟨18000, false⟩, ⟨21600, true⟩],
    [0x0c9413d2400431636041005dedff0000b34ce10205f0665083000efe2f0200aa277903000c9a7702000d995903,
     0x001079df02],
    none⟩,
  ⟨"Asia/Kathmandu", 20476,
    [⟨19800, false⟩, ⟨20700, false⟩],
    [0x0e1b4be04007c25b3241],
    none⟩,
  ⟨"Asia/Khandyga", 32533,
    [⟨28800, false⟩, ⟨32400, false⟩, ⟨36000, true⟩, ⟨32400, true⟩, ⟨36000, false⟩, ⟨39600, true⟩,
     ⟨39600, false⟩],
    [0x0e19e256b0013c7e015105f838e702000f134701000efff102000f134701000efff102000f134701000f150902,
     0x000f00d201000eff1002000eff1001000eff1002000eff1001000eff1002000eff1001000eff1002000eff1001,
     0x000eff1002000eff1001000eff1002000f92b801000eff1003000efff10000093a80010005c3af02000eff1001,
     0x000eff1002000eff1001000eff1002000eff1001000eff1002000eff1001000f92b80200114db001000cb07002,
     0x00114db001000cb0700200114db001000cb070020011e15801000c1cc8020011e15801000c1cc8020011e15801,
     0x000cb0700200114db001000cb0700200114db001000583860400072c09050011e15804000c1cc8050011e15804,
     0x000c1cc8050011e15804000c1cc8050011e15804000cb0700500114db004000cb0700500114db004000cb07005,
     0x0011e15804000c1cc806000dff4d04005ddc6b01],
    none⟩,
  ⟨"Asia/Kolkata", 21208,
    [⟨21200, false⟩, ⟨19270, false⟩, ⟨19800, false⟩, ⟨23400, true⟩],
    [0x0667c58a8001d2dd3081043b5d18a20433dcf6e300129e4f020008fc1903005dedff02],
    none⟩,
  ⟨"Asia/Krasnoyarsk", 22286,
    [⟨21600, false⟩, ⟨25200, false⟩, ⟨28800, true⟩, ⟨25200, true⟩, ⟨28800, false⟩],
    [0x0e1bb4e720013aad32e105f838e702000f134701000efff102000f134701000efff102000f134701000f150902,
     0x000f00d201000eff1002000eff1001000eff1002000eff1001000eff1002000eff1001000eff1002000eff1001,
     0x000eff1002000eff1001000eff1002000f92b801000eff1003000efff10000093a80010005c3af02000eff1001,
     0x000eff1002000eff1001000eff1002000eff1001000eff1002000eff1001000f92b80200114db001000cb07002,
     0x00114db001000cb0700200114db001000cb070020011e15801000c1cc8020011e15801000c1cc8020011e15801,
     0x000cb0700200114db001000cb0700200114db001000cb070020011e15801000c1cc8020011e15801000c1cc802,
     0x0011e15801000c1cc8020011e15801000cb0700200114db001000cb0700200114db001000cb070020011e15801,
     0x000c1cc804006bdad701],
    none⟩,
  ⟨"Asia/Kuching", 26480,
    [⟨27000, false⟩, ⟨28800, false⟩, ⟨30000, true⟩, ⟨32400, false⟩],
    [0x0ed4c4710000cdd40f8100513dff8200077f3d010016a9130200077f3d01001693fb0200077f3d01001693fb02,
     0x00077f3d01001693fb0200077f3d010016a9130200077f3d01001693fb0200077f3d010005464b03006b715f01],
    none⟩,
  ⟨"Asia/Macau", 27250,
    [⟨28800, false⟩, ⟨32400, false⟩, ⟨36000, true⟩, ⟨32400, true⟩],
    [0x0c52b9c0e0045de1a621000ab54f0200108ef701000d844102000c9a7701003c3d4a00001177e003000c9b5800,
     0x00108fd80300128a1800000cb07003000eff1000000c9b580300114db000000cb0700300114db000000cb07003,
     0x001162c800000d2f000300114db000000cb0700300114db000000b8920030012750000000b892003001308a800,
     0x000af5780300130bbb80000b8a01030012741f00000b8a01030012741f00000b8a01030012741f00000b8a0103,
     0x001307c700000af65903001307c700000af65903001307c700000b8a01030012741f00000b8a01030012741f00,
     0x000dd8a103000efd4e00000f00d203000efd4e00000f00d203000f91d700000efff103000efe2f00000efff103,
     0x000efe2f00000efff103000efe2f00000efff103000efe2f00000efff103000f91d700000efff103000efe2f00,
     0x0005c57103001838af00000efff103000efe2f00000efff103000efe2f00004d4ad103000d433700],
    none⟩,
  ⟨"Asia/Magadan", 36192,
    [⟨36000, false⟩, ⟨39600, false⟩, ⟨43200, true⟩, ⟨39600, true⟩, ⟨43200, false⟩],
    [0x0e9db7720000b8a7240105f838e702000f134701000efff102000f134701000efff102000f134701000f150902,
     0x000f00d201000eff1002000eff1001000eff1002000eff1001000eff1002000eff1001000eff1002000eff1001,
     0x000eff1002000eff1001000eff1002000f92b801000eff1003000efff10000093a80010005c3af02000eff1001,
     0x000eff1002000eff1001000eff1002000eff1001000eff1002000eff1001000f92b80200114db001000cb07002,
     0x00114db001000cb0700200114db001000cb070020011e15801000c1cc8020011e15801000c1cc8020011e15801,
     0x000cb0700200114db001000cb0700200114db001000cb070020011e15801000c1cc8020011e15801000c1cc802,
     0x0011e15801000c1cc8020011e15801000cb0700200114db001000cb0700200114db001000cb070020011e15801,
     0x000c1cc804006bdad700002cfef201],
    none⟩,
  ⟨"Asia/Makassar", 28656,
    [⟨28800, false⟩, ⟨32400, false⟩],
    [0x0f9d9161000117147f01006ced0f00],
    none⟩,
  ⟨"Asia/Manila", -57368,
    [⟨29032, false⟩, ⟨28800, false⟩, ⟨32400, true⟩, ⟨32400, false⟩],
    [0x054a41c980066d99e281045e17a4020006423f010093e829020004c68f03005bf4a002001669800100fba53102,
     0x0004722f0102ae8a0102000ea9cf01017d0261020005ae9701],
    none⟩,
  ⟨"Asia/Nicosia", 8008,
    [⟨7200, false⟩, ⟨10800, true⟩],
    [0x0e5395f3800647691281000efe2f000011cd2101000c461700000e573101000e6a8700000f939901000f134700,
     0x000eead901000efe2f00000f939901000e6a8700000efff101000efe2f00000efff101000efe2f00000efff101,
     0x000efe2f00000efff101000f91d700000efff101000efe2f00000efff101000efe2f00000efff101000efe2f00,
     0x000efff101000efe2f00000efff101000efe2f00000efff101000f91d700000efff101000efe2f00000efff101,
     0x000efe2f00000efff101000efe2f00000efff101000efe2f00000efff101000efe2f00000f939901000efe2f00,
     0x000efff101000efe2f00000efff1010011505300],
    some ⟨⟨7200, false⟩, ⟨10800, true⟩, ⟨3, 5, 0, 10800⟩, ⟨10, 5, 0, 14400⟩⟩⟩,
  ⟨"Asia/Novokuznetsk", 20928,
    [⟨21600, false⟩, ⟨25200, false⟩, ⟨28800, true⟩, ⟨25200, true⟩],
    [0x0e9da6140000b8bc060105f838e702000f134701000efff102000f134701000efff102000f134701000f150902,
     0x000f00d201000eff1002000eff1001000eff1002000eff1001000eff1002000eff1001000eff1002000eff1001,
     0x000eff1002000eff1001000eff1002000f92b801000eff1003000efff10000093a80010005c3af02000eff1001,
     0x000eff1002000eff1001000eff1002000eff1001000eff1002000eff1001000f92b80200114db001000cb07002,
     0x00114db001000cb0700200114db001000cb070020011e15801000c1cc8020011e15801000c1cc8020011e15801,
     0x000cb0700200114db001000cb0700200114db001000cb070020011e15801000c1cc8020011e15801000c1cc802,
     0x0011e15801000c1cc8020011e15801000cb0700200114db001000cb0700200114db001000cb070030011e23900,
     0x000c1cc801],
    none⟩,
  ⟨"Asia/Novosibirsk", 19900,
    [⟨21600, false⟩, ⟨25200, false⟩, ⟨28800, true⟩, ⟨25200, true⟩],
    [0x0e19d59a40013c8c7fc105f838e702000f134701000efff102000f134701000efff102000f134701000f150902,
     0x000f00d201000eff1002000eff1001000eff1002000eff1001000eff1002000eff1001000eff1002000eff1001,
     0x000eff1002000eff1001000eff1002000f92b801000eff1003000efff10000093a80010005c3af02000eff1001,
     0x000eff100200049a9d03000a655400000eff1003000eff1000000eff1003000eff1000000f92b80300114db000,
     0x000cb0700300114db000000cb0700300114db000000cb070030011e15800000c1cc8030011e15800000c1cc803,
     0x0011e15800000cb0700300114db000000cb0700300114db000000cb070030011e15800000c1cc8030011e15800,
     0x000c1cc8030011e15800000c1cc8030011e15800000cb0700300114db000000cb0700300114db000000cb07003,
     0x0011e15800000c1cc801006bdad70000347d9901],
    none⟩,
  ⟨"Asia/Omsk", 17610,
    [⟨18000, false⟩, ⟨21600, false⟩, ⟨25200, true⟩, ⟨21600, true⟩, ⟨25200, false⟩],
    [0x0e17581360013f0ae7a105f838e702000f134701000efff102000f134701000efff102000f134701000f150902,
     0x000f00d201000eff1002000eff1001000eff1002000eff1001000eff1002000eff1001000eff1002000eff1001,
     0x000eff1002000eff1001000eff1002000f92b801000eff1003000efff10000093a80010005c3af02000eff1001,
     0x000eff1002000eff1001000eff1002000eff1001000eff1002000eff1001000f92b80200114db001000cb07002,
     0x00114db001000cb0700200114db001000cb070020011e15801000c1cc8020011e15801000c1cc8020011e15801,
     0x000cb0700200114db001000cb0700200114db001000cb070020011e15801000c1cc8020011e15801000c1cc802,
     0x0011e15801000c1cc8020011e15801000cb0700200114db001000cb0700200114db001000cb070020011e15801,
     0x000c1cc804006bdad701],
    none⟩,
  ⟨"Asia/Oral", 12324,
    [⟨10800, false⟩, ⟨18000, false⟩, ⟨21600, true⟩, ⟨21600, false⟩, ⟨18000, true⟩, ⟨14400, false⟩],
    [0x0e9dbd45c000b8a7774105f8380602000f134703000eff1002000f142801000efff102000f134701000f150902,
     0x000f00d201000eff1002000eff1001000eff1002000eff1001000eff1002000eff1001000eff1002000eff1001,
     0x000eff1004000efff105000eff1004000f92b805000eff1004000eff100500093a80010005c3af04000efff105,
     0x000eff1004000eff1005000eff1004000eff1005000eff1004000eff1005000f92b80400114db005000cb07004,
     0x00114db005000cb0700400114db005000cb070040011e15805000c1cc8040011e15805000c1cc8040011e15805,
     0x000cb0700400114db005000cb0700400114db005000cb070040011e15801],
    none⟩,
  ⟨"Asia/Pontianak", 26240,
    [⟨27000, false⟩, ⟨32400, false⟩, ⟨28800, false⟩, ⟨25200, false⟩],
    [0x0f9d91f80001162c5081006dd4a680004e5d7982003c25ff80019b69888202d24b5f83],
    none⟩,
  ⟨"Asia/Pyongyang", 30180,
    [⟨30600, false⟩, ⟨32400, false⟩],
    [0x0cb9a321c00070e255c10c2e7eb7800051e73001],
    none⟩,
  ⟨"Asia/Qatar", 12368,
    [⟨14400, false⟩, ⟨10800, false⟩],
    [0x0e1b4ddb0006297f5901],
    none⟩,
  ⟨"Asia/Qostanay", 15268,
    [⟨14400, false⟩, ⟨18000, false⟩, ⟨21600, true⟩, ⟨21600, false⟩, ⟨18000, true⟩],
    [0x0e9dbc8dc000b8a74e4105f838e702000f134703000eff1002000f142801000efff102000f134701000f150902,
     0x000f00d201000eff1002000eff1001000eff1002000eff1001000eff1002000eff1001000eff1002000eff1001,
     0x000eff1002000eff1001000eff1002000f92b801000eff1004000efff10000093a80010005c3af02000eff1001,
     0x000eff1002000eff1001000eff1002000eff1001000eff1002000eff1001000f92b80200114db001000cb07002,
     0x00114db001000cb0700200114db001000cb070020011e15801000c1cc8020011e15801000c1cc8020011e15801,
     0x000cb0700200114db001000cb0700200114db001000cb070020011e158030245cc5501],
    none⟩,
  ⟨"Asia/Qyzylorda", 15712,
    [⟨14400, false⟩, ⟨18000, false⟩, ⟨21600, true⟩, ⟨21600, false⟩],
    [0x0e9dbc720000b8a76a0105f838e702000f134703000eff1002000f142801000efff102000f134701000f150902,
     0x000f00d201000eff1002000eff1001000eff1002000eff1001000eff1002000eff1001000eff1002000eff1001,
     0x000eff1002000eff1001000eff1002000f92b801000eff1001000efff1010009399f030005c3af02000efff101,
     0x000eff1002000eff1001000eff1002000eff1001000eff1002000eff1001000f92b80200114db001000cb07002,
     0x00114db001000cb0700200114db001000cb070020011e15801000c1cc8020011e15801000c1cc8020011e15801,
     0x000cb0700200114db001000cb0700200114db001000cb070020011e1580301a97d7d01],
    none⟩,
  ⟨"Asia/Riyadh", 11212,
    [⟨10800, false⟩],
    [0x114dd77340],
    none⟩,
  ⟨"Asia/Sakhalin", 34248,
    [⟨32400, false⟩, ⟨39600, false⟩, ⟨43200, true⟩, ⟨39600, true⟩, ⟨36000, false⟩],
    [0x0c6b30e38004b3fe5381042f684602000f134701000efff102000f134701000efff102000f134701000f150902,
     0x000f00d201000eff1002000eff1001000eff1002000eff1001000eff1002000eff1001000eff1002000eff1001,
     0x000eff1002000eff1001000eff1002000f92b801000eff1003000efff10400093a80010005c3af02000eff1001,
     0x000eff1002000eff1001000eff1002000eff1001000eff1002000eff1001000f92b80200114db001000cb07003,
     0x00114e9104000cb0700300114db004000cb070030011e15804000c1cc8030011e15804000c1cc8030011e15804,
     0x000cb0700300114db004000cb0700300114db004000cb070030011e15804000c1cc8030011e15804000c1cc803,
     0x0011e15804000c1cc8030011e15804000cb0700300114db004000cb0700300114db004000cb070030011e15804,
     0x000c1cc801006bdad704002aaf7101],
    none⟩,
  ⟨"Asia/Samarkand", 16073,
    [⟨14400, false⟩, ⟨18000, false⟩, ⟨21600, true⟩, ⟨21600, false⟩],
    [0x0e9dbc5b7000b8a7809105f838e702000f134703000eff1002000f142801000efff102000f134701000f150902,
     0x000f00d201000eff1002000eff1001000eff1002000eff1001000eff1002000eff1001000eff1002000eff1001,
     0x000eff1002000eff1001000eff1002000f92b801000eff1002000eff1001],
    none⟩,
  ⟨"Asia/Seoul", 30472,
    [⟨30600, false⟩, ⟨32400, false⟩, ⟨36000, true⟩, ⟨34200, true⟩],
    [0x0cb9a30f800070e268010447f78782000890df010010a5d102000d4337010010a5d102000d584f0100139d3102,
     0x000a60ef01004c2381000021c8e083000a7607000014eeb103000af497000011e23903000b883f00001275e103,
     0x000b883f00001275e103000b883f00001275e103000b883f00001add71010306def182000cb0700100114db002,
     0x000cb07001],
    none⟩,
  ⟨"Asia/Shanghai", 29143,
    [⟨28800, false⟩, ⟨32400, true⟩],
    [0x0bdf883a90022615f571000e162700026e059901000b09af00000c9c390100131cdf0000076b5101006befef00,
     0x001503c901000b7327000010274101001079df00000efff101000c9a7700001178c101000238a70004578d5301,
     0x000af4970000114e9101000caf8f000011e23901000c1be7000011e23901000caf8f0000114e9101000caf8f00,
     0x00114e9101000caf8f00],
    none⟩,
  ⟨"Asia/Singapore", 24925,
    [⟨25200, false⟩, ⟨26400, true⟩, ⟨26400, false⟩, ⟨27000, false⟩, ⟨32400, false⟩, ⟨28800, false⟩],
    [0x0c645c6230033e3c8ed1005a395d0200aa901003000dd79a84006b70ee830444980105],
    none⟩,
  ⟨"Asia/Srednekolymsk", 36892,
    [⟨36000, false⟩, ⟨39600, false⟩, ⟨43200, true⟩, ⟨39600, true⟩, ⟨43200, false⟩],
    [0x0e9db7464000b8a74fc105f838e702000f134701000efff102000f134701000efff102000f134701000f150902,
     0x000f00d201000eff1002000eff1001000eff1002000eff1001000eff1002000eff1001000eff1002000eff1001,
     0x000eff1002000eff1001000eff1002000f92b801000eff1003000efff10000093a80010005c3af02000eff1001,
     0x000eff1002000eff1001000eff1002000eff1001000eff1002000eff1001000f92b80200114db001000cb07002,
     0x00114db001000cb0700200114db001000cb070020011e15801000c1cc8020011e15801000c1cc8020011e15801,
     0x000cb0700200114db001000cb0700200114db001000cb070020011e15801000c1cc8020011e15801000c1cc802,
     0x0011e15801000c1cc8020011e15801000cb0700200114db001000cb0700200114db001000cb070020011e15801,
     0x000c1cc804006bdad701],
    none⟩,
  ⟨"Asia/Taipei", 29160,
    [⟨28800, false⟩, ⟨32400, false⟩, ⟨32400, true⟩],
    [0x0b4913098004e865968100eff100000013722002000b7327000010274102001079df00000efff102000c9a7700,
     0x001178c102000c9a7700001178c102000c9a7700001178c102000c9a7700000c87210200142f1700000c720902,
     0x0011a12f00000c7209020011a12f00000c720902000f134700000f150902000f134700000efff102000f134700,
     0x000efff102000f134700000efff102000f13470000141bc102000a0c8f00001406a902000a0c8f00017825d902,
     0x000f134700000efff102000f1347000070ce3902000793bf00],
    none⟩,
  ⟨"Asia/Tashkent", 16631,
    [⟨18000, false⟩, ⟨21600, false⟩, ⟨25200, true⟩, ⟨21600, true⟩],
    [0x0e9dbc389000b8a6c27105f838e702000f134701000efff102000f134701000efff102000f134701000f150902,
     0x000f00d201000eff1002000eff1001000eff1002000eff1001000eff1002000eff1001000eff1002000eff1001,
     0x000eff1002000eff1001000eff1002000f92b801000eff1003000efff100],
    none⟩,
  ⟨"Asia/Tbilisi", 10751,
    [⟨10800, false⟩, ⟨14400, false⟩, ⟨18000, true⟩, ⟨14400, true⟩],
    [0x0e9dbda81003dc0724f102d4d8d702000f134701000efff102000f134701000efff102000f134701000f150902,
     0x000f00d201000eff1002000eff1001000eff1002000eff1001000eff1002000eff1001000eff1002000eff1001,
     0x000eff1002000eff1001000eff1002000f92b801000eff1003000efff100000efd4e03000efe2f00000efff103,
     0x000efe2f00000efff103000efe2f01000eff1002000efe2f01000f939902002f4aef01000cb1510200114ccf01,
     0x000cb151020011e07701000c1da9020011e07701000c1da9020011e07701000cb1510200114ccf01000cb15102,
     0x00114ccf01000cb1510200077ea703000a655400000c1cc801],
    none⟩,
  ⟨"Asia/Tehran", 12344,
    [⟨12600, false⟩, ⟨16200, true⟩, ⟨14400, false⟩, ⟨18000, true⟩],
    [0x0fec30cc8004e9377f0100118cf802000cc5f883000af57802000813300000103be881000978e700000f2a2101,
     0x000f528f00013f361101000bb26f00000efff101000f285f00000eead901000f285f00000eead901000f285f00,
     0x000eead901000f285f00000eead901000f285f00000efff101000f285f00000eead901000f285f00000eead901,
     0x000f285f00000eead901000f285f00000efff101000f285f00000eead901000f285f00000eead901000f285f00,
     0x000eead901000f285f00000efff101000f285f00004b114901000f285f00000efff101000f285f00000eead901,
     0x000f285f00000eead901000f285f00000eead901000f285f00000efff101000f285f00000eead901000f285f00,
     0x000eead901000f285f00000eead901000f285f00000efff101000f285f00000eead901000f285f00000eead901,
     0x000f285f00000eead901000f285f00000efff101000f285f00000eead901000f285f00],
    none⟩,
  ⟨"Asia/Thimphu", 21516,
    [⟨19800, false⟩, ⟨21600, false⟩],
    [0x115a855f4004b7b38341],
    none⟩,
  ⟨"Asia/Tokyo", 33539,
    [⟨32400, false⟩, ⟨36000, true⟩],
    [0x0a584e4f000717b5e001000af578000010ba0801000d44180000139c5001000a61d00000139c5001000a61d000],
    none⟩,
  ⟨"Asia/Tomsk", 20391,
    [⟨21600, false⟩, ⟨25200, false⟩, ⟨28800, true⟩, ⟨25200, true⟩],
    [0x0e1a78f590013be9247105f838e702000f134701000efff102000f134701000efff102000f134701000f150902,
     0x000f00d201000eff1002000eff1001000eff1002000eff1001000eff1002000eff1001000eff1002000eff1001,
     0x000eff1002000eff1001000eff1002000f92b801000eff1003000efff10000093a80010005c3af02000eff1001,
     0x000eff1002000eff1001000eff1002000eff1001000eff1002000eff1001000f92b80200114db001000cb07002,
     0x00114db001000cb0700200114db001000cb070020011e15801000c1cc8020011e15801000c1cc8020011e15801,
     0x000cb0700200028de803000ec0a900000cb0700300114db000000cb070030011e15800000c1cc8030011e15800,
     0x000c1cc8030011e15800000c1cc8030011e15800000cb0700300114db000000cb0700300114db000000cb07003,
     0x0011e15800000c1cc801006bdad700002fe05901],
    none⟩,
  ⟨"Asia/Ulaanbaatar", 25652,
    [⟨25200, false⟩, ⟨28800, false⟩, ⟨32400, true⟩],
    [0x0c6962ecc008837ee441009ddebf02000f134701000f150902000efe2f01000efff102000efe2f01000efff102,
     0x000efe2f01000efff102000efe2f01000efff102000efe2f01000efff102000efe2f01000efff102000f91d701,
     0x000efff102000efe2f01000efff102000efe2f01000efff102000efe2f01000efff102000efe2f01000efff102,
     0x000efe2f01000f939902000efe2f01000efff102000efe2f01000efff102000efe2f01004dcb2302000caf8f01,
     0x000efff102000efe2f01000efff102000efe2f01000efff102000efe2f01000efff102000efe2f01000efff102,
     0x000f91d70100ff849902000efc6d01000f01b302000efc6d01],
    none⟩,
  ⟨"Asia/Urumqi", 21020,
    [⟨21600, false⟩],
    [0x0f0c0fae40],
    none⟩,
  ⟨"Asia/Ust-Nera", 34374,
    [⟨28800, false⟩, ⟨32400, false⟩, ⟨43200, true⟩, ⟨39600, false⟩, ⟨39600, true⟩, ⟨36000, false⟩,
     ⟨43200, false⟩],
    [0x0e19e1e3a0013c7e746105f838e702000f118503000efff102000f134703000efff102000f134703000f150902,
     0x000f00d203000eff1002000eff1003000eff1002000eff1003000eff1002000eff1003000eff1002000eff1003,
     0x000eff1002000eff1003000eff1002000f92b803000eff1004000efff10500093a80030005c3af02000eff1003,
     0x000eff1002000eff1003000eff1002000eff1003000eff1002000eff1003000f92b80200114db003000cb07002,
     0x00114db003000cb0700200114db003000cb070020011e15803000c1cc8020011e15803000c1cc8020011e15803,
     0x000cb0700200114db003000cb0700200114db003000cb070020011e15803000c1cc8020011e15803000c1cc802,
     0x0011e15803000c1cc8020011e15803000cb0700200114db003000cb0700200114db003000cb070020011e15803,
     0x000c1cc806000dff4d03005ddc6b05],
    none⟩,
  ⟨"Asia/Vladivostok", 31651,
    [⟨32400, false⟩, ⟨36000, false⟩, ⟨39600, true⟩, ⟨36000, true⟩, ⟨39600, false⟩],
    [0x0e71b87dd000e4a6f93105f838e702000f134701000efff102000f134701000efff102000f134701000f150902,
     0x000f00d201000eff1002000eff1001000eff1002000eff1001000eff1002000eff1001000eff1002000eff1001,
     0x000eff1002000eff1001000eff1002000f92b801000eff1003000efff10000093a80010005c3af02000eff1001,
     0x000eff1002000eff1001000eff1002000eff1001000eff1002000eff1001000f92b80200114db001000cb07002,
     0x00114db001000cb0700200114db001000cb070020011e15801000c1cc8020011e15801000c1cc8020011e15801,
     0x000cb0700200114db001000cb0700200114db001000cb070020011e15801000c1cc8020011e15801000c1cc802,
     0x0011e15801000c1cc8020011e15801000cb0700200114db001000cb0700200114db001000cb070020011e15801,
     0x000c1cc804006bdad701],
    none⟩,
  ⟨"Asia/Yakutsk", 31138,
    [⟨28800, false⟩, ⟨32400, false⟩, ⟨36000, true⟩, ⟨32400, true⟩, ⟨36000, false⟩],
    [0x0e19e2ade0013c7daa2105f838e702000f134701000efff102000f134701000efff102000f134701000f150902,
     0x000f00d201000eff1002000eff1001000eff1002000eff1001000eff1002000eff1001000eff1002000eff1001,
     0x000eff1002000eff1001000eff1002000f92b801000eff1003000efff10000093a80010005c3af02000eff1001,
     0x000eff1002000eff1001000eff1002000eff1001000eff1002000eff1001000f92b80200114db001000cb07002,
     0x00114db001000cb0700200114db001000cb070020011e15801000c1cc8020011e15801000c1cc8020011e15801,
     0x000cb0700200114db001000cb0700200114db001000cb070020011e15801000c1cc8020011e15801000c1cc802,
     0x0011e15801000c1cc8020011e15801000cb0700200114db001000cb0700200114db001000cb070020011e15801,
     0x000c1cc804006bdad701],
    none⟩,
  ⟨"Asia/Yangon", 23087,
    [⟨23400, false⟩, ⟨32400, false⟩],
    [0x0e1b4b3d1002a0088c71005a76bd80],
    none⟩,
  ⟨"Asia/Yekaterinburg", 14553,
    [⟨13505, false⟩, ⟨14400, false⟩, ⟨18000, false⟩, ⟨21600, true⟩, ⟨18000, true⟩, ⟨21600, false⟩],
    [0x0db2149a70005b3a8d81014914b41205f838e703000f134702000efff103000f134702000efff103000f134702,
     0x000f150903000f00d202000eff1003000eff1002000eff1003000eff1002000eff1003000eff1002000eff1003,
     0x000eff1002000eff1003000eff1002000eff1003000f92b802000eff1004000efff10100093a80020005c3af03,
     0x000eff1002000eff1003000eff1002000eff1003000eff1002000eff1003000eff1002000f92b80300114db002,
     0x000cb0700300114db002000cb0700300114db002000cb070030011e15802000c1cc8030011e15802000c1cc803,
     0x0011e15802000cb0700300114db002000cb0700300114db002000cb070030011e15802000c1cc8030011e15802,
     0x000c1cc8030011e15802000c1cc8030011e15802000cb0700300114db002000cb0700300114db002000cb07003,
     0x0011e15802000c1cc805006bdad702],
    none⟩,
  ⟨"Asia/Yerevan", 10680,
    [⟨10800, false⟩, ⟨14400, false⟩, ⟨18000, true⟩, ⟨14400, true⟩],
    [0x0e9dbdac8003dc07208102d4d8d702000f134701000efff102000f134701000efff102000f134701000f150902,
     0x000f00d201000eff1002000eff1001000eff1002000eff1001000eff1002000eff1001000eff1002000eff1001,
     0x000eff1002000eff1001000eff1002000f92b801000eff1003000efff100000eff1003000eff1000000eff1003,
     0x000eff1000000eff1003000eff1000000eff1003000eff1001002d8ff70200114db001000cb0700200114db001,
     0x000cb070020011e15801000c1cc8020011e15801000c1cc8020011e15801000cb0700200114db001000cb07002,
     0x00114db001000cb070020011e15801000c1cc8020011e15801000c1cc8020011e15801000c1cc8020011e15801,
     0x000cb0700200114db001000cb0700200114db001000cb070020011e15801000c1cc8020011e15801],
    none⟩]

end FeedSieve.Time.Zone
